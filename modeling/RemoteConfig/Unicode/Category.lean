/-!
Contract: the general categories of Unicode characters, and the classes of characters that are
unions of them.

Owns:
- the table of categories of Unicode 16, as runs of characters in ascending order;
- which marks count as letters, and which extend the character before them;
- letters, digits, word characters and printable characters.

Does not own: letter case.
-/

namespace RemoteConfig.Unicode

/-- The runs of characters of one category: a length in base 36, then the category. -/
def categoryRunText : List String :=
  ["wCc1Zs3Po1Sc3Po1Ps1Pe1Po1Sm1Po1Pd2PoaNd2Po3Sm2PoqLu1Ps1Po1Pe1Sk1Pc1SkqLl1Ps1Sm1Pe1SmxCc1Zs1Po4",
    "Sc1So1Po1Sk1So1Lo1Pi1Sm1Cf1So1Sk1So1Sm2No1Sk1Ll2Po1Sk1No1Lo1Pf3No1PonLu1Sm7LuoLl1Sm8Ll1Lu1Ll1L",
    "u1Ll1Lu1Ll1Lu1Ll1Lu1Ll1Lu1Ll1Lu1Ll1Lu1Ll1Lu1Ll1Lu1Ll1Lu1Ll1Lu1Ll1Lu1Ll1Lu1Ll1Lu1Ll1Lu1Ll1Lu1Ll",
    "1Lu1Ll1Lu1Ll1Lu1Ll1Lu1Ll1Lu1Ll1Lu1Ll1Lu1Ll1Lu1Ll1Lu1Ll1Lu1Ll1Lu2Ll1Lu1Ll1Lu1Ll1Lu1Ll1Lu1Ll1Lu1",
    "Ll1Lu1Ll1Lu1Ll1Lu2Ll1Lu1Ll1Lu1Ll1Lu1Ll1Lu1Ll1Lu1Ll1Lu1Ll1Lu1Ll1Lu1Ll1Lu1Ll1Lu1Ll1Lu1Ll1Lu1Ll1L",
    "u1Ll1Lu1Ll1Lu1Ll1Lu1Ll1Lu1Ll1Lu1Ll1Lu1Ll1Lu1Ll1Lu1Ll1Lu1Ll1Lu1Ll2Lu1Ll1Lu1Ll1Lu3Ll2Lu1Ll1Lu1Ll",
    "2Lu1Ll3Lu2Ll4Lu1Ll2Lu1Ll3Lu3Ll2Lu1Ll2Lu1Ll1Lu1Ll1Lu1Ll2Lu1Ll1Lu2Ll1Lu1Ll2Lu1Ll3Lu1Ll1Lu1Ll2Lu2",
    "Ll1Lo1Lu3Ll4Lo1Lu1Lt1Ll1Lu1Lt1Ll1Lu1Lt1Ll1Lu1Ll1Lu1Ll1Lu1Ll1Lu1Ll1Lu1Ll1Lu1Ll1Lu1Ll1Lu2Ll1Lu1L",
    "l1Lu1Ll1Lu1Ll1Lu1Ll1Lu1Ll1Lu1Ll1Lu1Ll1Lu1Ll1Lu2Ll1Lu1Lt1Ll1Lu1Ll3Lu1Ll1Lu1Ll1Lu1Ll1Lu1Ll1Lu1Ll",
    "1Lu1Ll1Lu1Ll1Lu1Ll1Lu1Ll1Lu1Ll1Lu1Ll1Lu1Ll1Lu1Ll1Lu1Ll1Lu1Ll1Lu1Ll1Lu1Ll1Lu1Ll1Lu1Ll1Lu1Ll1Lu1",
    "Ll1Lu1Ll1Lu1Ll1Lu1Ll1Lu1Ll1Lu1Ll1Lu1Ll1Lu1Ll1Lu1Ll1Lu7Ll2Lu1Ll2Lu2Ll1Lu1Ll4Lu1Ll1Lu1Ll1Lu1Ll1L",
    "u1Ll1Lu1xLl1LorLliLm4SkcLmeSk5Lm7Sk1Lm1Sk1LmhSk34Mn1Lu1Ll1Lu1Ll1Lm1Sk1Lu1Ll2Cn1Lm3Ll1Po1Lu4Cn2",
    "Sk1Lu1Po3Lu1Cn1Lu1Cn2Lu1LlhLu1Cn9LuzLl1Lu2Ll3Lu3Ll1Lu1Ll1Lu1Ll1Lu1Ll1Lu1Ll1Lu1Ll1Lu1Ll1Lu1Ll1L",
    "u1Ll1Lu1Ll1Lu1Ll1Lu1Ll1Lu5Ll1Lu1Ll1Sm1Lu1Ll2Lu2Ll1fLu1cLl1Lu1Ll1Lu1Ll1Lu1Ll1Lu1Ll1Lu1Ll1Lu1Ll1",
    "Lu1Ll1Lu1Ll1Lu1Ll1Lu1Ll1Lu1Ll1Lu1Ll1Lu1Ll1Lu1Ll1Lu1Ll1Lu1Ll1Lu1Ll1So5Mn2Me1Lu1Ll1Lu1Ll1Lu1Ll1L",
    "u1Ll1Lu1Ll1Lu1Ll1Lu1Ll1Lu1Ll1Lu1Ll1Lu1Ll1Lu1Ll1Lu1Ll1Lu1Ll1Lu1Ll1Lu1Ll1Lu1Ll1Lu1Ll1Lu1Ll1Lu1Ll",
    "1Lu1Ll1Lu1Ll1Lu1Ll1Lu1Ll1Lu1Ll1Lu1Ll1Lu1Ll1Lu1Ll2Lu1Ll1Lu1Ll1Lu1Ll1Lu1Ll1Lu1Ll1Lu1Ll1Lu2Ll1Lu1",
    "Ll1Lu1Ll1Lu1Ll1Lu1Ll1Lu1Ll1Lu1Ll1Lu1Ll1Lu1Ll1Lu1Ll1Lu1Ll1Lu1Ll1Lu1Ll1Lu1Ll1Lu1Ll1Lu1Ll1Lu1Ll1L",
    "u1Ll1Lu1Ll1Lu1Ll1Lu1Ll1Lu1Ll1Lu1Ll1Lu1Ll1Lu1Ll1Lu1Ll1Lu1Ll1Lu1Ll1Lu1Ll1Lu1Ll1Lu1Ll1Lu1Ll1Lu1Ll",
    "1Lu1Ll1Lu1Ll1Lu1Ll1Lu1Ll1Lu1Ll1Lu1Ll1Lu1Ll1Lu1Ll1Lu1Ll1Lu1Ll1Lu1Ll1Lu1Ll1Lu1Ll1Lu1Ll1Lu1Ll1Lu1",
    "Ll1Cn12Lu2Cn1Lm6Po15Ll1Po1Pd2Cn2So1Sc1Cn19Mn1Pd1Mn1Po2Mn1Po2Mn1Po1Mn8CnrLo4Cn4Lo2PobCn6Cf3Sm2P",
    "o1Sc2Po2SobMn1Po1Cf3PowLo1LmaLolMnaNd4Po2Lo1Mn2rLo1Po1Lo7Mn1Cf1So6Mn2Lm2Mn1So4Mn2LoaNd3Lo2So1L",
    "oePo1Cn1Cf1Lo1MnuLorMn2Cn2hLobMn1LoeCnaNdxLo9Mn2Lm1So3Po1Lm2Cn1Mn2ScmLo4Mn1Lm9Mn1Lm3Mn1Lm5Mn2C",
    "nfPo1CnpLo3Mn2Cn1Po1CnbLo5CnoLo1Sk6Lo1Cn2Cf5Cn9Mn15Lo1LmoMn1CfwMn1Mc1iLo1Mn1Mc1Mn1Lo3Mc8Mn4Mc1",
    "Mn2Mc1Lo7MnaLo2Mn2PoaNd1Po1LmfLo1Mn2Mc1Cn8Lo2Cn2Lo2CnmLo1Cn7Lo1Cn1Lo3Cn4Lo2Cn1Mn1Lo3Mc4Mn2Cn2M",
    "c2Cn2Mc1Mn1Lo8Cn1Mc4Cn2Lo1Cn3Lo2Mn2CnaNd2Lo2Sc6No1So1Sc1Lo1Po1Mn2Cn2Mn1Mc1Cn6Lo4Cn2Lo2CnmLo1Cn",
    "7Lo1Cn2Lo1Cn2Lo1Cn2Lo2Cn1Mn1Cn3Mc2Mn4Cn2Mn2Cn3Mn3Cn1Mn7Cn4Lo1Cn1Lo7CnaNd2Mn3Lo1Mn1PoaCn2Mn1Mc1",
    "Cn9Lo1Cn3Lo1CnmLo1Cn7Lo1Cn2Lo1Cn5Lo2Cn1Mn1Lo3Mc5Mn1Cn2Mn1Mc1Cn2Mc1Mn2Cn1LofCn2Lo2Mn2CnaNd1Po1S",
    "c7Cn1Lo6Mn1Cn1Mn2Mc1Cn8Lo2Cn2Lo2CnmLo1Cn7Lo1Cn2Lo1Cn5Lo2Cn1Mn1Lo1Mc1Mn1Mc4Mn2Cn2Mc2Cn2Mc1Mn7Cn",
    "2Mn1Mc4Cn2Lo1Cn3Lo2Mn2CnaNd1So1Lo6NoaCn1Mn1Lo1Cn6Lo3Cn3Lo1Cn4Lo3Cn2Lo1Cn1Lo1Cn2Lo3Cn2Lo3Cn3Lo3",
    "CncLo4Cn2Mc1Mn2Mc3Cn3Mc1Cn3Mc1Mn2Cn1Lo6Cn1MceCnaNd3No6So1Sc1So5Cn1Mn3Mc1Mn8Lo1Cn3Lo1CnnLo1CngL",
    "o2Cn1Mn1Lo3Mn4Mc1Cn3Mn1Cn4Mn7Cn2Mn1Cn3Lo2Cn1Lo2Cn2Lo2Mn2CnaNd7Cn1Po7No1So1Lo1Mn2Mc1Po8Lo1Cn3Lo",
    "1CnnLo1CnaLo1Cn5Lo2Cn1Mn1Lo1Mc1Mn5Mc1Cn1Mn2Mc1Cn2Mc2Mn7Cn2Mc6Cn2Lo1Cn2Lo2Mn2CnaNd1Cn2Lo1MccCn2",
    "Mn2Mc9Lo1Cn3Lo1Cn15Lo2Mn1Lo3Mc4Mn1Cn3Mc1Cn3Mc1Mn1Lo1So4Cn3Lo1Mc7No3Lo2Mn2CnaNd9No1So6Lo1Cn1Mn2",
    "Mc1CniLo3CnoLo1Cn9Lo1Cn1Lo2Cn7Lo3Cn1Mn4Cn3Mc3Mn1Cn1Mn1Cn8Mc6CnaNd2Cn2Mc1PocCn1cLo1Mn2Lo7Mn4Cn1",
    "Sc6Lo1Lm8Mn1PoaNd2Po11Cn2Lo1Cn1Lo1Cn5Lo1CnoLo1Cn1Lo1CnaLo1Mn2Lo9Mn1Lo2Cn5Lo1Cn1Lm1Cn7Mn1CnaNd2",
    "Cn4LowCn1Lo3SofPo1So1Po3So2Mn6SoaNdaNo1So1Mn1So1Mn1So1Mn1Ps1Pe1Ps1Pe2Mc8Lo1Cn10Lo4CneMn1Mc5Mn1",
    "Po2Mn5LobMn1Cn10Mn1Cn8So1Mn6So1Cn2So5Po4So2Po11Cn17Lo2Mc4Mn1Mc6Mn1Mc2Mn2Mc2Mn1LoaNd6Po6Lo2Mc2M",
    "n4Lo3Mn1Lo3Mc2Lo7Mc3Lo4MndLo1Mn2Mc2Mn6Mc1Mn1Lo1McaNd3Mc1Mn2So12Lu1Cn1Lu5Cn1Lu2Cn17Ll1Po1Lm3Ll9",
    "5Lo1Cn4Lo2Cn7Lo1Cn1Lo1Cn4Lo2Cn15Lo1Cn4Lo2CnxLo1Cn4Lo2Cn7Lo1Cn1Lo1Cn4Lo2CnfLo1Cn1lLo1Cn4Lo2Cn1v",
    "Lo2Cn3Mn9PokNo3CngLoaSo6Cn2eLu2Cn6Ll2Cn1Pdh8Lo1So1PohLo1ZsqLo1Ps1Pe3Cn23Lo3Po3Nl8Lo7CniLo3Mn1M",
    "c9CnjLo2Mn1Mc2Po9CniLo2MncCndLo1Cn3Lo1Cn2MncCn1gLo2Mn1Mc7Mn8Mc1Mn2McbMn3Po1Lm3Po1Sc1Lo1Mn2CnaN",
    "d6CnaNo6Cn6Po1Pd4Po3Mn1Cf1MnaNd6CnzLo1Lm1hLo7Cn5Lo2MnyLo1Mn1Lo5Cn1yLoaCnvLo1Cn3Mn4Mc2Mn3Mc4Cn2",
    "Mc1Mn6Mc3Mn4Cn1So3Cn2PoaNduLo2Cn5LobCn18Lo4CnqLo6CnaNd1No3CnySonLo2Mn2Mc1Mn2Cn2Po1hLo1Mc1Mn1Mc",
    "7Mn1Cn1Mn1Mc1Mn2Mc8Mn6McaMn2Cn1MnaNd6CnaNd6Cn7Po1Lm6Po2CneMn1MegMn1dCn4Mn1Mc1bLo1Mn1Mc5Mn1Mc1M",
    "n5Mc1Mn2Mc8Lo1Cn2PoaNd7PoaSo9Mn9So3Po2Mn1McuLo1Mc4Mn2Mc2Mn1Mc3Mn2LoaNd18Lo1Mn1Mc2Mn3Mc1Mn1Mc3M",
    "n2Mc8Cn4Po10Lo8Mc8Mn2Mc2Mn3Cn5PoaNd3Cn3LoaNduLo6Lm2Po9Ll1Lu1Ll5Cn17Lu2Cn3Lu8Po8Cn3Mn1PodMn1Mc7",
    "Mn4Lo1Mn6Lo1Mn2Lo1Mc2Mn1Lo5Cn18Ll1rLmdLl1LmyLl11Lm1sMn1Lu1Ll1Lu1Ll1Lu1Ll1Lu1Ll1Lu1Ll1Lu1Ll1Lu1",
    "Ll1Lu1Ll1Lu1Ll1Lu1Ll1Lu1Ll1Lu1Ll1Lu1Ll1Lu1Ll1Lu1Ll1Lu1Ll1Lu1Ll1Lu1Ll1Lu1Ll1Lu1Ll1Lu1Ll1Lu1Ll1L",
    "u1Ll1Lu1Ll1Lu1Ll1Lu1Ll1Lu1Ll1Lu1Ll1Lu1Ll1Lu1Ll1Lu1Ll1Lu1Ll1Lu1Ll1Lu1Ll1Lu1Ll1Lu1Ll1Lu1Ll1Lu1Ll",
    "1Lu1Ll1Lu1Ll1Lu1Ll1Lu1Ll1Lu1Ll1Lu1Ll1Lu1Ll1Lu1Ll1Lu1Ll1Lu1Ll1Lu1Ll1Lu1Ll1Lu1Ll1Lu1Ll1Lu1Ll1Lu1",
    "Ll1Lu1Ll1Lu1Ll1Lu1Ll1Lu1Ll1Lu1Ll1Lu1Ll1Lu1Ll1Lu1Ll1Lu1Ll1Lu1Ll1Lu1Ll1Lu1Ll1Lu1Ll1Lu1Ll1Lu1Ll1L",
    "u1Ll1Lu1Ll1Lu1Ll1Lu1Ll1Lu1Ll1Lu9Ll1Lu1Ll1Lu1Ll1Lu1Ll1Lu1Ll1Lu1Ll1Lu1Ll1Lu1Ll1Lu1Ll1Lu1Ll1Lu1Ll",
    "1Lu1Ll1Lu1Ll1Lu1Ll1Lu1Ll1Lu1Ll1Lu1Ll1Lu1Ll1Lu1Ll1Lu1Ll1Lu1Ll1Lu1Ll1Lu1Ll1Lu1Ll1Lu1Ll1Lu1Ll1Lu1",
    "Ll1Lu1Ll1Lu1Ll1Lu1Ll1Lu1Ll1Lu1Ll1Lu1Ll1Lu1Ll1Lu1Ll1Lu1Ll1Lu1Ll1Lu1Ll1Lu1Ll1Lu1Ll1Lu1Ll1Lu1Ll1L",
    "u1Ll1Lu1Ll1Lu1Ll1Lu1Ll1Lu1Ll1Lu1Ll1Lu1Ll1Lu9Ll8Lu6Ll2Cn6Lu2Cn8Ll8Lu8Ll8Lu6Ll2Cn6Lu2Cn8Ll1Cn1Lu",
    "1Cn1Lu1Cn1Lu1Cn1Lu8Ll8LueLl2Cn8Ll8Lt8Ll8Lt8Ll8Lt5Ll1Cn2Ll4Lu1Lt1Sk1Ll3Sk3Ll1Cn2Ll4Lu1Lt3Sk4Ll2",
    "Cn2Ll4Lu1Cn3Sk8Ll5Lu3Sk2Cn3Ll1Cn2Ll4Lu1Lt2Sk1CnbZs5Cf6Pd2Po1Pi1Pf1Ps2Pi1Pf1Ps1Pi8Po1Zl1Zp5Cf1Z",
    "s9Po1Pi1Pf4Po2Pc3Po1Sm1Ps1PebPo1Sm1Po1PcaPo1Zs5Cf1CnaCf1No1Lm2Cn6No3Sm1Ps1Pe1LmaNo3Sm1Ps1Pe1Cn",
    "dLm3CnxScfCndMn4Me1Mn3MecMnfCn2So1Lu4So1Lu2So1Ll3Lu2Ll3Lu1Ll1So1Lu2So1Sm5Lu6So1Lu1So1Lu1So1Lu1",
    "So4Lu1So1Ll4Lu1Ll4Lo1Ll2So2Ll2Lu5Sm1Lu4Ll1So1Sm2So1Ll1SogNozNl1Lu1Ll4Nl1No2So4Cn5Sm5So2Sm4So1S",
    "m2So1Sm2So1Sm7So1SmvSo2Sm2So1Sm1So1SmvSo7gSm8So1Ps1Pe1Ps1PekSo2Sm7So1Ps1Pe29So1SmuSopSm14So6Sm",
    "20SomCnbSolCn1oNo26SomNo53So1Sm9So1Sm1iSo8Sm33So1Sm6wSo1Ps1Pe1Ps1Pe1Ps1Pe1Ps1Pe1Ps1Pe1Ps1Pe1Ps",
    "1PeuNo18So5Sm1Ps1PevSm1Ps1Pe1Ps1Pe1Ps1Pe1Ps1Pe1Ps1PegSm74So3nSm1Ps1Pe1Ps1Pe1Ps1Pe1Ps1Pe1Ps1Pe1",
    "Ps1Pe1Ps1Pe1Ps1Pe1Ps1Pe1Ps1Pe1Ps1Pe1rSm1Ps1Pe1Ps1PewSm1Ps1Pe76Sm1cSolSm2So6Sm13So2CnwSo1Cn2xSo",
    "1cLu1cLl1Lu1Ll3Lu2Ll1Lu1Ll1Lu1Ll1Lu1Ll4Lu1Ll1Lu2Ll1Lu6Ll2Lm3Lu1Ll1Lu1Ll1Lu1Ll1Lu1Ll1Lu1Ll1Lu1L",
    "l1Lu1Ll1Lu1Ll1Lu1Ll1Lu1Ll1Lu1Ll1Lu1Ll1Lu1Ll1Lu1Ll1Lu1Ll1Lu1Ll1Lu1Ll1Lu1Ll1Lu1Ll1Lu1Ll1Lu1Ll1Lu",
    "1Ll1Lu1Ll1Lu1Ll1Lu1Ll1Lu1Ll1Lu1Ll1Lu1Ll1Lu1Ll1Lu1Ll1Lu1Ll1Lu1Ll1Lu1Ll1Lu1Ll1Lu1Ll1Lu1Ll1Lu1Ll1",
    "Lu1Ll1Lu1Ll1Lu1Ll1Lu1Ll1Lu1Ll1Lu1Ll1Lu1Ll1Lu1Ll1Lu1Ll1Lu1Ll1Lu1Ll1Lu1Ll1Lu2Ll6So1Lu1Ll1Lu1Ll3M",
    "n1Lu1Ll5Cn4Po1No2Po12Ll1Cn1Ll5Cn1Ll2Cn1kLo7Cn1Lm1PoeCn1MnnLo9Cn7Lo1Cn7Lo1Cn7Lo1Cn7Lo1Cn7Lo1Cn7",
    "Lo1Cn7Lo1Cn7Lo1CnwMn2Po1Pi1Pf1Pi1Pf3Po1Pi1Pf1Po1Pi1Pf9Po1Pd2Po1Pd1Po1Pi1Pf2Po1Pi1Pf1Ps1Pe1Ps1P",
    "e1Ps1Pe1Ps1Pe5Po1LmaPo2Pd4Po1Pd1Po1PsdPo2So3Po1Ps1Pe1Ps1Pe1Ps1Pe1Ps1Pe1PdyCnqSo1Cn2hSocCn5ySoq",
    "CngSo1Zs3Po1So1Lm1Lo1Nl1Ps1Pe1Ps1Pe1Ps1Pe1Ps1Pe1Ps1Pe2So1Ps1Pe1Ps1Pe1Ps1Pe1Ps1Pe1Pd1Ps2Pe1So9N",
    "l4Mn2Mc1Pd5Lm2So3Nl1Lm1Lo1Po2So1Cn2eLo2Cn2Mn2Sk2Lm1Lo1Pd2iLo1Po3Lm1Lo5Cn17Lo1Cn2mLo1Cn2So4NoaS",
    "owLo12So9Cn1SogLovSo1CnaNouSo8No1SofNowSoaNo13SofNo8wSo534Lo1sSog7pLo1LmvrLo3Cn1jSo9Cn14Lo6Lm2",
    "Po7gLo1Lm3PogLoaNd2LokCn1Lu1Ll1Lu1Ll1Lu1Ll1Lu1Ll1Lu1Ll1Lu1Ll1Lu1Ll1Lu1Ll1Lu1Ll1Lu1Ll1Lu1Ll1Lu1",
    "Ll1Lu1Ll1Lu1Ll1Lu1Ll1Lu1Ll1Lu1Ll1Lu1Ll1Lu1Ll1Lu1Ll1Lu1Ll1Lu1Ll1Lu1Ll1Lo1Mn3Me1PoaMn1Po1Lm1Lu1L",
    "l1Lu1Ll1Lu1Ll1Lu1Ll1Lu1Ll1Lu1Ll1Lu1Ll1Lu1Ll1Lu1Ll1Lu1Ll1Lu1Ll1Lu1Ll1Lu1Ll1Lu1Ll2Lm2Mn1yLoaNl2M",
    "n6Po8CnnSk9Lm2Sk1Lu1Ll1Lu1Ll1Lu1Ll1Lu1Ll1Lu1Ll1Lu1Ll1Lu3Ll1Lu1Ll1Lu1Ll1Lu1Ll1Lu1Ll1Lu1Ll1Lu1Ll",
    "1Lu1Ll1Lu1Ll1Lu1Ll1Lu1Ll1Lu1Ll1Lu1Ll1Lu1Ll1Lu1Ll1Lu1Ll1Lu1Ll1Lu1Ll1Lu1Ll1Lu1Ll1Lu1Ll1Lu1Ll1Lu1",
    "Ll1Lu1Ll1Lu1Ll1Lu1Ll1Lu1Ll1Lu1Ll1Lu1Ll1Lu1Ll1Lu1Ll1Lu1Ll1Lm8Ll1Lu1Ll1Lu1Ll2Lu1Ll1Lu1Ll1Lu1Ll1L",
    "u1Ll1Lu1Ll1Lm2Sk1Lu1Ll1Lu1Ll1Lo1Lu1Ll1Lu3Ll1Lu1Ll1Lu1Ll1Lu1Ll1Lu1Ll1Lu1Ll1Lu1Ll1Lu1Ll1Lu1Ll1Lu",
    "1Ll1Lu1Ll5Lu1Ll5Lu1Ll1Lu1Ll1Lu1Ll1Lu1Ll1Lu1Ll1Lu1Ll1Lu1Ll1Lu1Ll4Lu1Ll1Lu1Ll2Lu1Ll2Cn1Lu1Ll1Cn1",
    "Ll1Cn1Ll1Lu1Ll1Lu1Ll1Lu1Ll1LulCn3Lm1Lu1Ll1Lo2Lm1Ll7Lo1Mn3Lo1Mn4Lo1MnnLo2Mc2Mn1Mc4So1Mn3Cn6No2S",
    "o1Sc1So6Cn1gLo4Po8Cn2Mc1eLogMc2Mn8Cn2PoaNd6CniMn6Lo3Po1Lo1Po2Lo1MnaNdsLo8Mn2PonLobMn2McbCn1Pot",
    "Lo3Cn3Mn1Mc1bLo1Mn2Mc4Mn2Mc2Mn3McdPo1Cn1LmaNd4Cn2Po5Lo1Mn1Lm9LoaNd5Lo1Cn15Lo6Mn2Mc2Mn2Mc2Mn9Cn",
    "3Lo1Mn8Lo1Mn1Mc2CnaNd2Cn4PogLo1Lm6Lo3So1Lo1Mc1Mn1Mc1eLo1Mn1Lo3Mn2Lo2Mn5Lo2Mn1Lo1Mn1LooCn2Lo1Lm",
    "2PobLo1Mc2Mn2Mc2Po1Lo2Lm1Mc1MnaCn6Lo2Cn6Lo2Cn6Lo9Cn7Lo1Cn7Lo1Cn17Ll1Sk4Lm9Ll1Lm2Sk4Cn28LlzLo2M",
    "c1Mn2Mc1Mn2Mc1Po1Mc1Mn2CnaNd6Cn8mcLocCnnLo4Cn1dLo4Cn1kwCs4xsCoa6Lo2Cn2yLo12Cn7LlcCn5Ll5Cn1Lo1M",
    "naLo1SmdLo1Cn5Lo1Cn1Lo1Cn2Lo1Cn2Lo1Cn30LohSkgCna3Lo1Pe1PsgSo1sLo2Cn1iLo7Cn1SowCncLo1Sc3SogMn7P",
    "o1Ps1Pe1Po6CngMn1Po2Pd2Pc1Ps1Pe1Ps1Pe1Ps1Pe1Ps1Pe1Ps1Pe1Ps1Pe1Ps1Pe1Ps1Pe2Po1Ps1Pe4Po3Pc3Po1Cn",
    "4Po1Pd1Ps1Pe1Ps1Pe1Ps1Pe3Po1Sm1Pd3Sm1Cn1Po1Sc2Po4Cn5Lo1Cn3rLo2Cn1Cf1Cn3Po1Sc3Po1Ps1Pe1Po1Sm1Po",
    "1Pd2PoaNd2Po3Sm2PoqLu1Ps1Po1Pe1Sk1Pc1SkqLl1Ps1Sm1Pe1Sm1Ps1Pe1Po1Ps1Pe2PoaLo1Lm19Lo2LmvLo3Cn6Lo",
    "2Cn6Lo2Cn6Lo2Cn3Lo3Cn2Sc1Sm1Sk1So2Sc1Cn1So4Sm2SoaCn3Cf2So2CncLo1CnqLo1CnjLo1Cn2Lo1CnfLo2CneLoy",
    "Cn3fLo5Cn3Po4Cn19No3Cn9So1hNl4NohSo2No3So1CndSo3Cn1So1bCn19So1Mn3mCntLo3Cn1dLofCn1MnrNo4CnwLo4",
    "No9CnkLo1Nl8Lo1Nl5Cn12Lo5Mn5CnuLo1Cn1Po10Lo4Cn8Lo1Po5Nl16Cn14Lu14Ll26Lo2CnaNd6Cn10Lu4Cn10Ll4Cn",
    "14Lo8Cn1gLobCn1PobLu1CnfLu1Cn7Lu1Cn2Lu1CnbLl1CnfLl1Cn7Ll1Cn2Ll3Cn1gLocCn8nLo9CnmLoaCn8LooCn6Lm",
    "1Cn16Lm1Cn9Lm1xCn6Lo2Cn1Lo1Cn18Lo1Cn2Lo3Cn1Lo2CnnLo1Cn1Po8NonLo2So7NovLo8Cn9No1cCnjLo1Cn2Lo5Cn",
    "5NomLo6No3Cn1PoqLo5Cn1Po1sCn1kLo4Cn2No2LogNo2Cn1aNo1Lo3Mn1Cn2Mn5Cn4Mn4Lo1Cn3Lo1CntLo2Cn3Mn4Cn1",
    "Mn9No7Cn9Po7CntLo2No1PotLo3NowCn8Lo1SosLo2Mn4Cn5No7Po9Cn1iLo3Cn7PomLo2Cn8NojLo5Cn8NoiLo7Cn4Poc",
    "Cn7No28Cn21Lo1jCn1fLudCn1fLl7Cn6No10Lo4Mn8CnaNd6CnaNd4Lo1Lm1LomLu3Cn5Mn1Pd1LmmLl8Cn2Sm5sCnvNo1",
    "Cn16Lo1Cn2Mn1Pd2Cn2LogCn3Lo1jCn4MntLoaNo1Lo8CnmLobMn4No5PomCniLo4Mn4Po12CnlLo7NokCnnLo9Cn1Mc1M",
    "n1Mc1hLofMn7Po4CnkNoaNd1Mn2Lo2Mn1Lo9Cn3Mn1Mc19Lo3Mc4Mn2Mc2Mn2Po1Cf4Po1MnaCn1Cf2CnpLo7CnaNd6Cn3",
    "Mn10Lo5Mn1Mc8Mn1CnaNd4Po1Lo2Mc1Lo8CnzLo1Mn2Po1Lo9Cn2Mn1Mc1cLo3Mc9Mn2Mc4Lo4Po4Mn1Po1Mc1MnaNd1Lo",
    "1Po1Lo3Po1CnkNobCniLo1CnpLo3Mc3Mn2Mc1Mn1Mc2Mn6Po1Mn2Lo1Mn1qCn7Lo1Cn1Lo1Cn4Lo1CnfLo1CnaLo1Po6Cn",
    "1bLo1Mn3Mc8Mn5CnaNd6Cn2Mn2Mc1Cn8Lo2Cn2Lo2CnmLo1Cn7Lo1Cn2Lo1Cn5Lo1Cn2Mn1Lo2Mc1Mn4Mc2Cn2Mc2Cn3Mc",
    "2Cn1Lo6Cn1Mc5Cn5Lo2Mc2Cn7Mn3Cn5MnbCnaLo1Cn1Lo2Cn1Lo1Cn12Lo1Cn1Lo3Mc6Mn1Cn1Mc2Cn1Mc1Cn4Mc1Cn2Mc",
    "1Mn1Mc1Mn1Lo1Mn1Lo2Po1Cn2Po8Cn2MntCn1hLo3Mc8Mn2Mc3Mn1Mc1Mn4Lo5PoaNd2Po1Cn1Po1Mn3LouCn1cLo3Mc6M",
    "n1Mc1Mn4Mc2Mn1Mc2Mn2Lo1Po1Lo8CnaNd4mCn1bLo3Mc4Mn2Cn4Mc2Mn1Mc2MnnPo4Lo2MnyCn1cLo3Mc8Mn2Mc1Mn1Mc",
    "2Mn3Po1LobCnaNd6CndPojCn17Lo1Mn1Mc1Mn2Mc6Mn1Mc1Mn1Lo1Po6CnaNd6CnkNdsCnrLo2Cn1Mn1Mc1Mn2Mc4Mn1Mc",
    "5Mn4CnaNd2No3Po1So7Lo55Cn18Lo3Mc9Mn1Mc2Mn1Po2sCnwLuwLlaNd9NocCn8Lo2Cn1Lo2Cn8Lo1Cn2Lo1CnoLo6Mc1",
    "Cn2Mc2Cn2Mn1Mc1Mn1Lo1Mc1Lo1Mc1Mn3Po9CnaNd1yCn8Lo2Cn13Lo3Mc4Mn2Cn2Mn4Mc1Mn1Lo1Po1Lo1McrCn1LoaMn",
    "14Lo6Mn1Mc1Lo4Mn8Po1Mn8Cn1Lo6Mn2Mc3Mn1aLodMn1Mc2Mn3Po1Lo5PodCn21Lo7CnaPo52CnxLo1PoeCnaNd6Cn9Lo",
    "1Cn11Lo1Mc7Mn1Cn6Mn1Mc1Mn1Lo5PoaCnaNdjNo3Cn2PouLo2CnmMn1Cn1Mc7Mn1Mc2Mn1Mc2Mn21Cn7Lo1Cn2Lo1Cn12",
    "Lo6Mn3Cn1Mn1Cn2Mn1Cn7Mn1Lo1Mn8CnaNd6Cn6Lo1Cn2Lo1CnwLo5Mc1Cn2Mn1Cn2Mc1Mn1Mc1Mn1Lo7CnaNd8mCnjLo2",
    "Mn2Mc2Po7Cn2Mn1Lo1McdLo1CnyLo2Mc5Mn3Cn2Mc1Mn1Mc1MndPoaNd1Mn2dCn1LofCnlNo8So4SchSodCn1PopmLo2uC",
    "n33Nl1Cn5PobCn5gLo218Cn2pLo2PodCntsLogCf1Mn6LofMnaCn32zLo5Cng7Lo5a1CnuLocMn3Mc3MnaNd1c6CnftLo7",
    "CnvLo1CnaNd4Cn2Po27Lo1CnaNd6CnuLo2Cn5Mn1PoaCn1cLo7Mn5Po4So4Lm1Po1SoaCnaNd1Cn7No1CnlLo5CnjLoc0C",
    "n3Lm14Lo2Lm3PoaNd5iCnwLuwLlnNo4Po2tCn23Lo4Cn1Mn1Lo1jMc7Cn4MndLm1sCn2Lm1Po1Lm1MnbCn2MceCn4qgLo8",
    "CnyeLo15CnaLo6w7Cn4Lm1Cn7Lm1Cn2Lm1Cn83LofCn1LotCn3Lo2Cn1LoeCn4Lo8Cnb0Lo1s4Cn2zLo5CndLo3Cn9Lo7C",
    "naLo2Cn1So2Mn1Po4Cf318Cn6oSoaNd6Cnc4So24Cn1aMn2CnnMn9Cn38So1oCn6uSoaCn13So2Cn1oSo2Mc3Mn3So6Mc8",
    "Cf8Mn2So7MnuSo4Mn1pSolCn1uSo3Mn1So3eCnkNocCnkNocCn2fSo9CnpNo3rCnqLuqLlqLu7Ll1CniLlqLuqLl1Lu1Cn",
    "2Lu2Cn1Lu2Cn2Lu2Cn4Lu1Cn8Lu4Ll1Cn1Ll1Cn7Ll1CnbLlqLuqLl2Lu1Cn4Lu2Cn8Lu1Cn7Lu1CnqLl2Lu1Cn4Lu1Cn5",
    "Lu1Cn1Lu3Cn7Lu1CnqLlqLuqLlqLuqLlqLuqLlqLuqLlqLuqLlqLusLl2CnpLu1SmpLl1Sm6LlpLu1SmpLl1Sm6LlpLu1S",
    "mpLl1Sm6LlpLu1SmpLl1Sm6LlpLu1SmpLl1Sm6Ll1Lu1Ll2Cn1eNde8So1jMn4So1eMn8So1MneSo1Mn2So5PofCn5Mn1C",
    "nfMnuoCnaLl1LokLl6Cn6Ll5xCn7Mn1CnhMn2Cn7Mn1Cn2Mn1Cn5Mn5Cn1qLmxCn1Mn34Cn19Lo3Cn7Mn7Lm2CnaNd4Cn1",
    "Lo1So8wCnuLo1MnhCn18Lo4MnaNd5Cn1SccwCnrLo1Lm4MnaNd5yCnuLo2Mn1LoaNd4Cn1PodcCn7Lo1Cn4Lo1Cn2Lo1Cn",
    "fLo1Cn5hLo2Cn9No7Mn15CnyLuyLl7Mn1Lm4CnaNd4Cn2PoltCn1nNo1So3No1Sc4No24Cn19No1SofNo5eCn4Lo1CnrLo",
    "1Cn2Lo1Cn1Lo2Cn1Lo1CnaLo1Cn4Lo1Cn1Lo1Cn1Lo6Cn1Lo4Cn1Lo1Cn1Lo1Cn1Lo1Cn3Lo1Cn2Lo1Cn1Lo2Cn1Lo1Cn1",
    "Lo1Cn1Lo1Cn1Lo1Cn1Lo1Cn2Lo1Cn1Lo2Cn4Lo1Cn7Lo1Cn4Lo1Cn4Lo1Cn1Lo1CnaLo1CnhLo5Cn3Lo1Cn5Lo1CnhLo1g",
    "Cn2Sm7iCn18So4Cn2sSocCnfSo2CnfSo1CnfSo1Cn11SoaCndNo4hSo1kCntSodCn18So4Cn9So7Cn2SoeCn6So4aCn6zS",
    "o5Skk8So4CnhSo3CndSo3Cn3bSo4Cn2nSo6CncSo4Cn1SofCncSo4Cn1kSo8CnaSo6Cn14So8CnuSo2CncSo4Cn2So1qCn",
    "9gSocCneSo2CndSo3CnaSo5Cn1kSo7CnfSo2CnbSo6Cn9So7Cn43So1Cn2kSoaNdsmCnwyoLowCn37eLo6Cn66Lo2Cn4g2",
    "LoeCn5rlLofCnhaLo1wiCnf2Lo15uCn3t7Lo5Cn38gLof975Cn1CfuCn2oCf3kCn6oMn1e6oCn1ekeCo2Cn1ekeCo2Cn"]

/-- The runs of marks that count as letters (`Al`), and of what lies between them (`No`). -/
def letterMarkRunText : List String :=
  ["n9No1AltNodAlg0NoeAl1No1Al1No2Al1No2Al1No1Al20NobAl1cNodAl1No7AlgNo1Al2tNo7Al4No4Al2No2Al4No1A",
    "lzNo1AluNogAl2uNobAl2tNo2Al3No9Al1No3Al1No4Al2yNo1Al1oNocAl3No7Al6NokAl1iNo2Al2NofAl1No2Al5No3",
    "AlaNo2AltNo3Al1mNo7Al2No2Al2No2AlaNo1AlaNo2AltNo3Al1mNo5Al4No2Al2No2Al4No1AluNo2Al3No1AlbNo3Al",
    "1mNo8Al1No3Al1No2AllNo2AlmNo3Al4No3Al1mNo7Al2No2Al2No2Al9No2AlaNo2AluNo1Al1nNo5Al3No3Al1No3Ala",
    "No1Al14No5Al1lNo7Al1No3Al1No3Al8No2AlbNo2AltNo3Al1mNo7Al1No3Al1No3Al8No2AlbNo2AlfNo1AlcNo4Al1m",
    "No7Al1No3Al1No3AlaNo1AlaNo2AltNo3Al23No6Al1No1Al1No8AliNo2Al1pNo1Al2No7AliNo1Al2rNo1Al2No6Al1N",
    "o2AlgNo1Al4jNojAl9NobAl1No10Al32NocAl1No1Al2No4AlnNo4Al4No3Al1No3Al2No7Al3No4AldNocAl1No1AlaNo",
    "4Al19wNo2AluNo2AluNo2AluNo2Al1uNojAl58No2AlyNo1Al3aNocAl4No9Al66No5Al1lNoaAl2NokAl22No2AlbNo3A",
    "l1dNo5Al1cNofAl1oNo3AluNo9Al2No2Al1lNobAl1eNojAlbgNoyAl357NowAlnskNo8AlyNo2Al9uNo1Al8No1AlnNo5",
    "Al2gNo2Al1eNogAl1No1Al1lNo1Al12No5AlsNocAl19No4Al1cNocAl11No1Al1vNoeAlcNo1Al8No2Al19No3Al1eNo1",
    "Al1No3Al2No2Al5No1Al18No5Al5No1Al6lNo8Alfn7No1Al1nbNo5Al1aeNo3Al1No2Al5No4AllwNo4Al1tNo1Al8xNo",
    "2Al27No1Al77No3Al1hNoeAl19No2AlbNo3Al19No9Al9No1Al1pNo3Al10NocAliNo2Al1lNo3Al1cNodAleNo2Al2kNo",
    "9Al2No1Al6No1Al2No1Al4dNoaAlnNo4Al1mNo7Al2No2Al2No2AlaNo1AlaNo2Al2cNo9Al1No1Al2No1Al1No4Al1No2",
    "Al2vNodAl1No3Al2yNoiAl6lNo7Al2No7AltNo2Al2aNofAl1No1Al2yNobAl2vNoeAl75NodAl6vNo6Al1No2Al2No2Al",
    "3No1Al1No1Al3yNo7Al2No6Al4No1AlsNoaAl16No5Al1No4AliNobAl1aNoeAlbbNo8Al1No7Al2bNomAl1NoeAl3eNo6",
    "Al3No1Al1No2Al1No3Al1No1Al3No1Al1uNo5Al1No2Al1No4Al9oNo4Al9No2Al1No1Al1cNo7Al3No3Ald0dNohAl2sg",
    "No1Al1No1jAl7No4Al2lNo2Alf58No1Al6zlNo7Al1NohAl2No7Al1No2Al1No5Al2sNo1Al1pzNo1Al"]

/-- The spacing characters that extend the one before them although they are no marks without width,
as first and last of a range. -/
def spacingExtenders : List (Nat × Nat) :=
  [(0x9BE, 0x9BE), (0x9D7, 0x9D7), (0xB3E, 0xB3E), (0xB57, 0xB57), (0xBBE, 0xBBE), (0xBD7, 0xBD7),
    (0xCC0, 0xCC0), (0xCC2, 0xCC2), (0xCC7, 0xCC8), (0xCCA, 0xCCB), (0xCD5, 0xCD6), (0xD3E, 0xD3E),
    (0xD57, 0xD57), (0xDCF, 0xDCF), (0xDDF, 0xDDF), (0x1715, 0x1715), (0x1734, 0x1734),
    (0x1B35, 0x1B35), (0x1B3B, 0x1B3B), (0x1B3D, 0x1B3D), (0x1B43, 0x1B44), (0x1BAA, 0x1BAA),
    (0x1BF2, 0x1BF3), (0x200C, 0x200C), (0x302E, 0x302F), (0xA953, 0xA953), (0xA9C0, 0xA9C0),
    (0xFF9E, 0xFF9F), (0x111C0, 0x111C0), (0x11235, 0x11235), (0x1133E, 0x1133E),
    (0x1134D, 0x1134D), (0x11357, 0x11357), (0x113B8, 0x113B8), (0x113C2, 0x113C2),
    (0x113C5, 0x113C5), (0x113C7, 0x113C9), (0x113CF, 0x113CF), (0x114B0, 0x114B0),
    (0x114BD, 0x114BD), (0x115AF, 0x115AF), (0x116B6, 0x116B6), (0x11930, 0x11930),
    (0x1193D, 0x1193D), (0x11F41, 0x11F41), (0x16FF0, 0x16FF1), (0x1D165, 0x1D166),
    (0x1D16D, 0x1D172), (0xE0020, 0xE007F)]

/-- The value of a digit of base 36 in lower case. -/
def base36Value (character : Char) : Nat :=
  if character.isDigit then character.toNat - 48 else character.toNat - 87

/-- Reads runs: digits build up a length, and a capital with a small letter ends the run. -/
def readRuns : Nat → List Char → List (Nat × (Char × Char))
  | length, major :: minor :: rest =>
    if major.isUpper then (length, (major, minor)) :: readRuns 0 rest
    else readRuns (length * 36 + base36Value major) (minor :: rest)
  | _, _ => []
termination_by _ text => text.length

def categoryRuns : List (Nat × (Char × Char)) :=
  readRuns 0 (categoryRunText.flatMap String.toList)

/-- The category of the character at a distance from the start of the runs. -/
def categoryIn : List (Nat × (Char × Char)) → Nat → Char × Char
  | [], _ => ('C', 'n')
  | (length, category) :: rest, distance =>
    if distance < length then category else categoryIn rest (distance - length)

/-- The general category of a character, as its two letters. -/
def category (character : Char) : Char × Char :=
  categoryIn categoryRuns character.toNat

/-- Letters of any kind. -/
def isLetter (character : Char) : Bool :=
  (category character).1 == 'L'

def isDecimalDigit (character : Char) : Bool :=
  category character == ('N', 'd')

/-- Letters that are counted as symbols: circled and squared ones. -/
def isEnclosedLetter (character : Char) : Bool :=
  let code := character.toNat
  (0x24B6 ≤ code && code ≤ 0x24E9) || (0x1F130 ≤ code && code ≤ 0x1F149)
    || (0x1F150 ≤ code && code ≤ 0x1F169) || (0x1F170 ≤ code && code ≤ 0x1F189)

def letterMarkRuns : List (Nat × (Char × Char)) :=
  readRuns 0 (letterMarkRunText.flatMap String.toList)

/-- The marks that count as letters: signs for vowels mostly. -/
def isLetterMark (character : Char) : Bool :=
  categoryIn letterMarkRuns character.toNat == ('A', 'l')

/-- The characters with the property `Alphabetic`: letters and what counts as one. -/
def isAlphabetic (character : Char) : Bool :=
  let (major, minor) := category character
  major == 'L' || (major == 'N' && minor == 'l') || isEnclosedLetter character
    || (major == 'M' && isLetterMark character)

/-- The characters of words: alphabetic ones, marks, decimal digits, connectors and joiners. -/
def isWordChar (character : Char) : Bool :=
  if character.toNat < 0x80 then character.isAlphanum || character == '_'
  else
    let (major, minor) := category character
    isAlphabetic character || major == 'M' || (major == 'N' && minor == 'd')
      || (major == 'P' && minor == 'c') || character.toNat == 0x200C || character.toNat == 0x200D

/-- The characters that show a glyph of their own, and the blank. -/
def isPrintable (character : Char) : Bool :=
  let (major, _) := category character
  character == ' ' || !(major == 'C' || major == 'Z')

/-- The characters that extend the one before them: marks without width of their own, and some that
are listed. -/
def isExtender (character : Char) : Bool :=
  let (major, minor) := category character
  (major == 'M' && minor != 'c')
    || spacingExtenders.any fun (first, last) => first ≤ character.toNat && character.toNat ≤ last

end RemoteConfig.Unicode
