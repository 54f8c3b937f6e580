import RemoteConfig.Json.ValueReader

/-!
Contract: the ways in which a Vault token is obtained.

Owns:
- the methods, their names, and the names under which settings may give them.

Does not own: what each method needs and does.
-/

namespace RemoteConfig

/-- How a Vault token is obtained. -/
inductive LoginMethod where
  | appRole
  | awsEc2
  | awsIam
  | azureMsi
  | cert
  | cubbyhole
  | gcpGce
  | gcpIam
  | kubernetes
  | pcf
  | token
deriving DecidableEq, Repr, Inhabited

namespace LoginMethod

def all : List LoginMethod :=
  [appRole, awsEc2, awsIam, azureMsi, cert, cubbyhole, gcpGce, gcpIam, kubernetes, pcf, token]

def name : LoginMethod → String
  | appRole => "APPROLE"
  | awsEc2 => "AWS_EC2"
  | awsIam => "AWS_IAM"
  | azureMsi => "AZURE_MSI"
  | cert => "CERT"
  | cubbyhole => "CUBBYHOLE"
  | gcpGce => "GCP_GCE"
  | gcpIam => "GCP_IAM"
  | kubernetes => "KUBERNETES"
  | pcf => "PCF"
  | token => "TOKEN"

def diagnosticName : LoginMethod → String
  | appRole => "AppRole"
  | awsEc2 => "AwsEc2"
  | awsIam => "AwsIam"
  | azureMsi => "AzureMsi"
  | cert => "Cert"
  | cubbyhole => "Cubbyhole"
  | gcpGce => "GcpGce"
  | gcpIam => "GcpIam"
  | kubernetes => "Kubernetes"
  | pcf => "Pcf"
  | token => "Token"

/-- The names under which settings may give a method. -/
def names : LoginMethod → List String
  | appRole => ["APPROLE", "approle"]
  | awsEc2 => ["AWS_EC2", "aws_ec2", "aws-ec2"]
  | awsIam => ["AWS_IAM", "aws_iam", "aws-iam"]
  | azureMsi => ["AZURE_MSI", "azure_msi", "azure-msi"]
  | cert => ["CERT", "cert"]
  | cubbyhole => ["CUBBYHOLE", "cubbyhole"]
  | gcpGce => ["GCP_GCE", "gcp_gce", "gcp-gce"]
  | gcpIam => ["GCP_IAM", "gcp_iam", "gcp-iam"]
  | kubernetes => ["KUBERNETES", "kubernetes"]
  | pcf => ["PCF", "pcf"]
  | token => ["TOKEN", "token"]

def read? {V : Type} (reader : ValueReader V) (value : V) : Option LoginMethod :=
  (reader.choice? (all.map names) value).bind fun position => all[position]?

end LoginMethod

end RemoteConfig
