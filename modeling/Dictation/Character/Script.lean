import Dictation.Character.CodeSet

namespace Dictation.Character.Script

/-- Splits a table into words of letters and numbers in base ten: a script code and a run length. -/
def readRuns (cs : List Char) : Array Nat × Array String :=
  go cs "" 0 0 #[] #[]
where
  close (code : String) (length position : Nat) (ends : Array Nat) (codes : Array String) :
      Nat × Array Nat × Array String :=
    if code.isEmpty then (position, ends, codes)
    else let stop := position + max length 1; (stop, ends.push stop, codes.push code)
  go : List Char → String → Nat → Nat → Array Nat → Array String → Array Nat × Array String
    | [], code, length, position, ends, codes => (close code length position ends codes).2
    | c :: cs, code, length, position, ends, codes =>
      if c.isUpper then
        let (position, ends, codes) := close code length position ends codes
        go cs (String.singleton c) 0 position ends codes
      else if c.isLower then go cs (code.push c) length position ends codes
      else if c.isDigit then go cs code (10 * length + (c.toNat - 48)) position ends codes
      else go cs code length position ends codes

def runs : Array Nat × Array String := readRuns table.toList
where
  table : String := "Zyyy65Latn26Zyyy6Latn26Zyyy47LatnZyyy15LatnZyyy5Latn23ZyyyLatn31ZyyyLatn449
Zyyy39Latn5Zyyy5Bopo2
Zyyy20Zinh112Grek4ZyyyGrek3Zzzz2Grek4ZyyyGrekZzzz4GrekZyyyGrekZyyyGrek3ZzzzGrekZzzzGrek20ZzzzGrek63
Copt14Grek16Cyrl133Zinh2Cyrl169ZzzzArmn38Zzzz2Armn50Zzzz2Armn3ZzzzHebr55Zzzz8Hebr27Zzzz4Hebr6Zzzz11
Arab5ZyyyArab6ZyyyArab14ZyyyArab3ZyyyArab32ZyyyArab10Zinh11Arab26ZinhArab108ZyyyArab34Syrc14Zzzz
Syrc60Zzzz2Syrc3Arab48Thaa50Zzzz14Nkoo59Zzzz2Nkoo3Samr46Zzzz2Samr15ZzzzMand28Zzzz2MandZzzzSyrc11
Zzzz5Arab34Zzzz5Arab75ZyyyArab29Deva81Zinh4Deva15Zyyy2Deva26Beng4ZzzzBeng8Zzzz2Beng2Zzzz2Beng22Zzzz
Beng7ZzzzBengZzzz3Beng4Zzzz2Beng9Zzzz2Beng2Zzzz2Beng4Zzzz8BengZzzz4Beng2ZzzzBeng5Zzzz2Beng25Zzzz2
Guru3ZzzzGuru6Zzzz4Guru2Zzzz2Guru22ZzzzGuru7ZzzzGuru2ZzzzGuru2ZzzzGuru2Zzzz2GuruZzzzGuru5Zzzz4Guru2
Zzzz2Guru3Zzzz3GuruZzzz7Guru4ZzzzGuruZzzz7Guru17Zzzz10Gujr3ZzzzGujr9ZzzzGujr3ZzzzGujr22ZzzzGujr7Zzzz
Gujr2ZzzzGujr5Zzzz2Gujr10ZzzzGujr3ZzzzGujr3Zzzz2GujrZzzz15Gujr4Zzzz2Gujr12Zzzz7Gujr7ZzzzOrya3Zzzz
Orya8Zzzz2Orya2Zzzz2Orya22ZzzzOrya7ZzzzOrya2ZzzzOrya5Zzzz2Orya9Zzzz2Orya2Zzzz2Orya3Zzzz7Orya3Zzzz4
Orya2ZzzzOrya5Zzzz2Orya18Zzzz10Taml2ZzzzTaml6Zzzz3Taml3ZzzzTaml4Zzzz3Taml2ZzzzTamlZzzzTaml2Zzzz3
Taml2Zzzz3Taml3Zzzz3Taml12Zzzz4Taml5Zzzz3Taml3ZzzzTaml4Zzzz2TamlZzzz6TamlZzzz14Taml21Zzzz5Telu13Zzzz
Telu3ZzzzTelu23ZzzzTelu16Zzzz2Telu9ZzzzTelu3ZzzzTelu4Zzzz7Telu2ZzzzTelu3ZzzzTelu2Zzzz2Telu4Zzzz2
Telu10Zzzz7Telu9Knda13ZzzzKnda3ZzzzKnda23ZzzzKnda10ZzzzKnda5Zzzz2Knda9ZzzzKnda3ZzzzKnda4Zzzz7Knda2
Zzzz5Knda3ZzzzKnda4Zzzz2Knda10ZzzzKnda3Zzzz12Mlym13ZzzzMlym3ZzzzMlym51ZzzzMlym3ZzzzMlym6Zzzz4Mlym16
Zzzz2Mlym26ZzzzSinh3ZzzzSinh18Zzzz3Sinh24ZzzzSinh9ZzzzSinhZzzz2Sinh7Zzzz3SinhZzzz4Sinh6ZzzzSinhZzzz
Sinh8Zzzz6Sinh10Zzzz2Sinh3Zzzz12Thai58Zzzz4ZyyyThai28Zzzz37Laoo2ZzzzLaooZzzzLaoo5ZzzzLaoo24ZzzzLaoo
ZzzzLaoo23Zzzz2Laoo5ZzzzLaooZzzzLaoo7ZzzzLaoo10Zzzz2Laoo4Zzzz32Tibt72ZzzzTibt36Zzzz4Tibt39ZzzzTibt36
ZzzzTibt15ZzzzTibt7Zyyy4Tibt2Zzzz37Mymr160Geor38ZzzzGeorZzzz5GeorZzzz2Geor43ZyyyGeor4Hang256Ethi73
ZzzzEthi4Zzzz2Ethi7ZzzzEthiZzzzEthi4Zzzz2Ethi41ZzzzEthi4Zzzz2Ethi33ZzzzEthi4Zzzz2Ethi7ZzzzEthiZzzz
Ethi4Zzzz2Ethi15ZzzzEthi57ZzzzEthi4Zzzz2Ethi67Zzzz2Ethi32Zzzz3Ethi26Zzzz6Cher86Zzzz2Cher6Zzzz2
Cans640Ogam29Zzzz3Runr75Zyyy3Runr11Zzzz7Tglg22Zzzz9TglgHano21Zyyy2Zzzz9Buhd20Zzzz12Tagb13ZzzzTagb3
ZzzzTagb2Zzzz12Khmr94Zzzz2Khmr10Zzzz6Khmr10Zzzz6Mong2Zyyy2MongZyyyMong20Zzzz6Mong89Zzzz7Mong43Zzzz5
Cans70Zzzz10Limb31ZzzzLimb12Zzzz4Limb12Zzzz4LimbZzzz3Limb12Tale30Zzzz2Tale5Zzzz11Talu44Zzzz4Talu26
Zzzz6Talu11Zzzz3Talu2Khmr32Bugi28Zzzz2Bugi2Lana63ZzzzLana29Zzzz2Lana11Zzzz6Lana10Zzzz6Lana14Zzzz2
Zinh46Zzzz2Zinh12Zzzz20Bali77ZzzzBali50Sund64Batk52Zzzz8Batk4Lepc56Zzzz3Lepc15Zzzz3Lepc3Olck48Cyrl11
Zzzz5Geor43Zzzz2Geor3Sund8Zzzz8Zinh3ZyyyZinh13ZyyyZinh7Zyyy4ZinhZyyy6ZinhZyyy3Zinh2ZyyyZzzz5Latn38
Grek5CyrlLatn49Grek5Latn4Grek5Latn13CyrlLatn70GrekZinh64Latn256Grek22Zzzz2Grek6Zzzz2Grek38Zzzz2Grek6
Zzzz2Grek8ZzzzGrekZzzzGrekZzzzGrekZzzzGrek31Zzzz2Grek53ZzzzGrek15ZzzzGrek14Zzzz2Grek6ZzzzGrek19Zzzz2
Grek3ZzzzGrek9ZzzzZyyy12Zinh2Zyyy87ZzzzZyyy11LatnZzzz2Zyyy11LatnZyyy15ZzzzLatn13Zzzz3Zyyy34Zzzz14
Zinh33Zzzz15Zyyy38GrekZyyy3Latn2Zyyy6LatnZyyy27LatnZyyy17Latn41Zyyy3Zzzz4Zyyy666Zzzz22Zyyy11Zzzz21
Zyyy928Brai256Zyyy628Zzzz2Zyyy138Glag96Latn32Copt116Zzzz5Copt7Geor38ZzzzGeorZzzz5GeorZzzz2Tfng56
Zzzz7Tfng2Zzzz14TfngEthi23Zzzz9Ethi7ZzzzEthi7ZzzzEthi7ZzzzEthi7ZzzzEthi7ZzzzEthi7ZzzzEthi7ZzzzEthi7
ZzzzCyrl32Zyyy94Zzzz34Hani26ZzzzHani89Zzzz12Hani214Zzzz26Zyyy21HaniZyyyHaniZyyy25Hani9Zinh4Hang2
Zyyy8Hani4Zyyy4ZzzzHira86Zzzz2Zinh2Zyyy2Hira3ZyyyKana90Zyyy2Kana3Zzzz5Bopo43ZzzzHang94ZzzzZyyy16
Bopo32Zyyy38Zzzz9ZyyyKana16Hang31ZzzzZyyy64Hang31Zyyy81Kana47ZyyyKana88Zyyy168Hani6592Zyyy64
Hani20992Yiii1165Zzzz3Yiii55Zzzz9Lisu48Vaii300Zzzz20Cyrl96Bamu88Zzzz8Zyyy34Latn102Zyyy3Latn82Zzzz20
Latn15Sylo45Zzzz3Zyyy10Zzzz6Phag56Zzzz8Saur70Zzzz8Saur12Zzzz6Deva32Kali46ZyyyKaliRjng36Zzzz11Rjng
Hang29Zzzz3Java78ZzzzZyyyJava10Zzzz4Java2Mymr31ZzzzCham55Zzzz9Cham14Zzzz2Cham10Zzzz2Cham4Mymr32
Tavt67Zzzz24Tavt5Mtei23Zzzz10Ethi6Zzzz2Ethi6Zzzz2Ethi6Zzzz9Ethi7ZzzzEthi7ZzzzLatn43ZyyyLatn9Grek
Latn4Zyyy2Zzzz4Cher80Mtei46Zzzz2Mtei10Zzzz6Hang11172Zzzz12Hang23Zzzz4Hang49Zzzz8452Hani366Zzzz2
Hani106Zzzz38Latn7Zzzz12Armn5Zzzz5Hebr26ZzzzHebr5ZzzzHebrZzzzHebr2ZzzzHebr2ZzzzHebr10Arab494Zyyy2
Arab144Zzzz32Arab16Zinh16Zyyy10Zzzz6Zinh14Cyrl2Zyyy35ZzzzZyyy19ZzzzZyyy4Zzzz4Arab5ZzzzArab135Zzzz2
ZyyyZzzzZyyy32Latn26Zyyy6Latn26Zyyy11Kana10ZyyyKana45Zyyy2Hang31Zzzz3Hang6Zzzz2Hang6Zzzz2Hang6Zzzz2
Hang3Zzzz3Zyyy7ZzzzZyyy7Zzzz10Zyyy5Zzzz2Linb12ZzzzLinb26ZzzzLinb19ZzzzLinb2ZzzzLinb15Zzzz2Linb14
Zzzz34Linb123Zzzz5Zyyy3Zzzz4Zyyy45Zzzz3Zyyy9Grek79ZzzzZyyy13Zzzz3GrekZzzz47Zyyy45ZinhZzzz130Lyci29
Zzzz3Cari49Zzzz15ZinhZyyy27Zzzz4Ital36Zzzz9Ital3Goth27Zzzz5Perm43Zzzz5Ugar30ZzzzUgarXpeo36Zzzz4
Xpeo14Zzzz42Dsrt80Shaw48Osma30Zzzz2Osma10Zzzz6Osge36Zzzz4Osge36Zzzz4Elba40Zzzz8Aghb52Zzzz11Aghb
Vith11ZzzzVith15ZzzzVith7ZzzzVith2ZzzzVith11ZzzzVith15ZzzzVith7ZzzzVith2Zzzz3Todr52Zzzz12Lina311
Zzzz9Lina22Zzzz10Lina8Zzzz24Latn6ZzzzLatn42ZzzzLatn9Zzzz69Cprt6Zzzz2CprtZzzzCprt44ZzzzCprt2Zzzz3Cprt
Zzzz2CprtArmi22ZzzzArmi9Palm32Nbat31Zzzz8Nbat9Zzzz48Hatr19ZzzzHatr2Zzzz5Hatr5Phnx28Zzzz3PhnxLydi26
Zzzz5LydiZzzz64Mero32Merc24Zzzz4Merc20Zzzz2Merc46Khar4ZzzzKhar2Zzzz5Khar8ZzzzKhar3ZzzzKhar29Zzzz2
Khar3Zzzz4Khar10Zzzz7Khar9Zzzz7Sarb32Narb32Zzzz32Mani39Zzzz4Mani12Zzzz9Avst54Zzzz3Avst7Prti22Zzzz2
Prti8Phli19Zzzz5Phli8Phlp18Zzzz7Phlp4Zzzz12Phlp7Zzzz80Orkh73Zzzz55Hung51Zzzz13Hung51Zzzz7Hung6Rohg40
Zzzz8Rohg10Zzzz6Gara38Zzzz3Gara29Zzzz8Gara2Zzzz208Arab31ZzzzYezi42ZzzzYezi3Zzzz2Yezi2Zzzz16Arab6
Zzzz8Arab9Zzzz33Arab6Sogo40Zzzz8Sogd42Zzzz22Ougr26Zzzz38Chrs28Zzzz20Elym23Zzzz9Brah78Zzzz4Brah36
Zzzz9BrahKthi67Zzzz10KthiZzzz2Sora25Zzzz7Sora10Zzzz6Cakm53ZzzzCakm18Zzzz8Mahj39Zzzz9Shrd96ZzzzSinh20
Zzzz11Khoj18ZzzzKhoj47Zzzz62Mult7ZzzzMultZzzzMult4ZzzzMult15ZzzzMult11Zzzz6Sind59Zzzz5Sind10Zzzz6
Gran4ZzzzGran8Zzzz2Gran2Zzzz2Gran22ZzzzGran7ZzzzGran2ZzzzGran5ZzzzZinhGran9Zzzz2Gran2Zzzz2Gran3Zzzz2
GranZzzz6GranZzzz5Gran7Zzzz2Gran7Zzzz3Gran5Zzzz11Tutg10ZzzzTutgZzzz2TutgZzzzTutg38ZzzzTutg10ZzzzTutg
Zzzz2TutgZzzzTutg4ZzzzTutg10ZzzzTutg2Zzzz8Tutg2Zzzz29Newa92ZzzzNewa5Zzzz30Tirh72Zzzz8Tirh10Zzzz166
Sidd54Zzzz2Sidd38Zzzz34Modi69Zzzz11Modi10Zzzz6Mong13Zzzz19Takr58Zzzz6Takr10Zzzz6Mymr20Zzzz28Ahom27
Zzzz2Ahom15Zzzz4Ahom23Zzzz185Dogr60Zzzz100Wara83Zzzz12WaraDiak7Zzzz2DiakZzzz2Diak8ZzzzDiak2Zzzz
Diak30ZzzzDiak2Zzzz2Diak12Zzzz9Diak10Zzzz70Nand8Zzzz2Nand46Zzzz2Nand11Zzzz27Zanb72Zzzz8Soyo83Zzzz13
Cans16Pauc57Zzzz7Deva10Zzzz86Shrd8Zzzz88Sunu34Zzzz14Sunu10Zzzz6Bhks9ZzzzBhks45ZzzzBhks14Zzzz10Bhks29
Zzzz3Marc32Zzzz2Marc22ZzzzMarc14Zzzz73Gonm7ZzzzGonm2ZzzzGonm44Zzzz3GonmZzzzGonm2ZzzzGonm9Zzzz8Gonm10
Zzzz6Gong6ZzzzGong2ZzzzGong37ZzzzGong2ZzzzGong6Zzzz7Gong10Zzzz310Maka25Zzzz7Kawi17ZzzzKawi41Zzzz3
Kawi29Zzzz85LisuZzzz15Taml50Zzzz13TamlXsux922Zzzz102Xsux111ZzzzXsux5Zzzz11Xsux196Zzzz2636Cpmn99
Zzzz13Egyp1110Zzzz10Egyp3995Zzzz5Hluw583Zzzz6841Gukh58Zzzz1734Bamu569Zzzz7Mroo31ZzzzMroo10Zzzz4Mroo2
Tnsa79ZzzzTnsa10Zzzz6Bass30Zzzz2Bass6Zzzz10Hmng70Zzzz10Hmng10ZzzzHmng7ZzzzHmng21Zzzz5Hmng19Zzzz432
Krai58Zzzz198Medf91Zzzz101Plrd75Zzzz4Plrd57Zzzz7Plrd17Zzzz64TangNshuHani2KitsZzzz11Hani7Zzzz9
Tang6912Kits470Zzzz41KitsTang31Zzzz97Tang115Zzzz8701Kana4ZzzzKana7ZzzzKana2ZzzzKanaHira287Kana3
Zzzz15HiraZzzz29Hira3Zzzz2KanaZzzz14Kana4Zzzz8Nshu396Zzzz2308Dupl107Zzzz5Dupl13Zzzz3Dupl9Zzzz7Dupl10
Zzzz2Dupl4Zyyy4Zzzz3932Zyyy253Zzzz3Zyyy436Zzzz6Zyyy23Zzzz15Zyyy17Zzzz15Zinh46Zzzz2Zinh23Zzzz9Zyyy116
Zzzz60Zyyy246Zzzz10Zyyy39Zzzz2Zyyy62Zinh3Zyyy17Zinh8Zyyy2Zinh7Zyyy30Zinh4Zyyy61Zzzz21Grek70Zzzz122
Zyyy20Zzzz12Zyyy20Zzzz12Zyyy87Zzzz9Zyyy25Zzzz135Zyyy85ZzzzZyyy71ZzzzZyyy2Zzzz2ZyyyZzzz2Zyyy2Zzzz2
Zyyy4ZzzzZyyy12ZzzzZyyyZzzzZyyy7ZzzzZyyy65ZzzzZyyy4Zzzz2Zyyy8ZzzzZyyy7ZzzzZyyy28ZzzzZyyy4ZzzzZyyy5
ZzzzZyyyZzzz3Zyyy7ZzzzZyyy340Zzzz2Zyyy292Zzzz2Zyyy50Sgnw652Zzzz15Sgnw5ZzzzSgnw15Zzzz1104Latn31Zzzz6
Latn6Zzzz213Glag7ZzzzGlag17Zzzz2Glag7ZzzzGlag2ZzzzGlag5Zzzz5Cyrl62Zzzz33CyrlZzzz112Hmnp45Zzzz3Hmnp14
Zzzz2Hmnp10Zzzz4Hmnp2Zzzz320Toto31Zzzz17Wcho58Zzzz5WchoZzzz464Nagm42Zzzz214Onao43Zzzz4OnaoZzzz480
Ethi7ZzzzEthi4ZzzzEthi2ZzzzEthi15ZzzzMend197Zzzz2Mend16Zzzz41Adlm76Zzzz4Adlm10Zzzz4Adlm2Zzzz785
Zyyy68Zzzz76Zyyy61Zzzz194Arab4ZzzzArab27ZzzzArab2ZzzzArabZzzz2ArabZzzzArab10ZzzzArab4ZzzzArabZzzz
ArabZzzz6ArabZzzz4ArabZzzzArabZzzzArabZzzzArab3ZzzzArab2ZzzzArabZzzz2ArabZzzzArabZzzzArabZzzzArab
ZzzzArabZzzzArab2ZzzzArabZzzz2Arab4ZzzzArab7ZzzzArab4ZzzzArab4ZzzzArabZzzzArab10ZzzzArab17Zzzz5Arab3
ZzzzArab5ZzzzArab17Zzzz52Arab2Zzzz270Zyyy44Zzzz4Zyyy100Zzzz12Zyyy15Zzzz2Zyyy15ZzzzZyyy15ZzzzZyyy37
Zzzz10Zyyy174Zzzz56Zyyy26HiraZyyy2Zzzz13Zyyy44Zzzz4Zyyy9Zzzz7Zyyy2Zzzz14Zyyy6Zzzz154Zyyy985Zzzz3
Zyyy17Zzzz3Zyyy13Zzzz3Zyyy218Zzzz6Zyyy12Zzzz4ZyyyZzzz15Zyyy12Zzzz4Zyyy56Zzzz8Zyyy10Zzzz6Zyyy40Zzzz8
Zyyy30Zzzz2Zyyy12Zzzz4Zyyy2Zzzz14Zyyy9Zzzz39Zyyy344Zzzz8Zyyy14Zzzz2Zyyy13Zzzz3Zyyy11Zzzz3Zyyy57Zzzz
ZyyyZzzz4Zyyy16Zzzz2Zyyy12Zzzz4Zyyy10Zzzz7Zyyy147ZzzzZyyy103Zzzz1029Hani42720Zzzz32Hani4382Zzzz2
Hani5774Zzzz2Hani7473Zzzz15Hani622Zzzz2466Hani542Zzzz1506Hani4939Zzzz5Hani8490Zzzz707463ZyyyZzzz30
Zyyy96Zzzz128Zinh240Zzzz196112"

def of (c : Char) : String := (runs.2[rank runs.1 c.toNat]?).getD "Zzzz"

/-- Characters used with scripts other than their own: first character and length of the run, in
hexadecimal, and the codes of all scripts the run is used with. -/
def sharedTable : String := "b7+1:AvstCariCoptDuplElbaGeorGlagGongGothGrekHaniLatnLydiMahjPermShaw
2bc+1:BengCyrlDevaLatnLisuThaiToto 2c7+1:BopoLatn 2c9+3:BopoLatn 2cd+1:LatnLisu 2d7+1:LatnThai
2d9+1:BopoLatn 300+1:CherCoptCyrlGrekLatnPermSunuTale 301+1:CherCyrlGrekLatnOsgeSunuTaleTodr
302+1:CherCyrlLatnTfng 303+1:GlagLatnSunuSyrcThai 304+1:AghbCherCoptCyrlGothGrekLatnOsgeSyrcTfngTodr
305+1:CoptElbaGlagGothKanaLatn 306+1:CyrlGrekLatnPermTfng 307+1:CoptDuplHebrLatnPermSyrcTaleTfngTodr
308+1:ArmnCyrlDuplGothGrekHebrLatnPermSyrcTaleTfng 309+1:LatnTfng 30a+1:DuplLatnSyrc
30b+1:CherCyrlLatnOsge 30c+1:CherLatnTale 30d+1:LatnSunu 30e+1:EthiLatn 310+1:LatnSunu
311+1:CyrlLatnTodr 313+1:GrekLatnPermTodr 323+1:CherDuplKanaLatnSyrcTfng 324+1:CherDuplLatnSyrc
325+1:LatnSyrc 32d+1:LatnSunuSyrc 32e+1:LatnSyrc 330+1:CherLatnSyrc
331+1:AghbCherGothLatnSunuSyrcThai 342+1:Grek 345+1:Grek 358+1:LatnOsge 35e+1:AghbLatnTodr
363+d:Latn 374+2:CoptGrek 483+1:CyrlPerm 484+1:CyrlGlag 485+2:CyrlLatn 487+1:CyrlGlag
589+1:ArmnGeorGlag 60c+1:ArabGaraNkooRohgSyrcThaaYezi 61b+1:ArabGaraNkooRohgSyrcThaaYezi
61c+1:ArabSyrcThaa 61f+1:AdlmArabGaraNkooRohgSyrcThaaYezi 640+1:AdlmArabMandManiOugrPhlpRohgSogdSyrc
64b+b:ArabSyrc 660+a:ArabThaaYezi 670+1:ArabSyrc 6d4+1:ArabRohg
951+1:BengDevaGranGujrGuruKndaLatnMlymNandNewaOryaShrdTamlTeluTirh
952+1:BengDevaGranGujrGuruKndaLatnMlymNewaOryaTamlTeluTirh
964+1:BengDevaDogrGongGonmGranGujrGuruKndaMahjMlymNandOnaoOryaSindSinhSyloTakrTamlTeluTirh
965+1:BengDevaDogrGongGonmGranGujrGukhGuruKndaLimbMahjMlymNandOnaoOryaSindSinhSyloTakrTamlTeluTirh
966+a:DevaDogrKthiMahj 9e6+a:BengCakmSylo a66+a:GuruMult ae6+a:GujrKhoj be6+e:GranTaml
ce6+a:KndaNandTutg 1040+a:CakmMymrTale 10fb+1:GeorGlagLatn 16eb+3:Runr 1735+2:BuhdHanoTagbTglg
1802+2:MongPhag 1805+1:MongPhag 1cd0+1:BengDevaGranKnda 1cd1+1:Deva 1cd2+1:BengDevaGranKnda
1cd3+1:DevaGranKnda 1cd4+1:Deva 1cd5+1:BengDevaNewaTeluTirh 1cd6+1:BengDevaTelu 1cd7+1:DevaNewaShrd
1cd8+1:BengDevaNewaTelu 1cd9+1:DevaShrd 1cda+1:DevaKndaMlymOryaTamlTelu 1cdb+1:Deva 1cdc+2:DevaShrd
1cde+2:Deva 1ce0+1:DevaShrd 1ce1+1:BengDeva 1ce2+1:DevaNewaTirh 1ce3+6:Deva 1ce9+1:DevaNandNewa
1cea+1:BengDevaShrd 1ceb+1:DevaNewa 1cec+1:Deva 1ced+1:BengDevaNewaShrd 1cee+4:Deva
1cf2+1:BengDevaGranKndaMlymNandOryaSinhTeluTirhTutg 1cf3+1:DevaGran 1cf4+1:DevaGranKndaTutg
1cf5+2:BengDeva 1cf7+1:Beng 1cf8+2:DevaGran 1cfa+1:Nand 1dc0+2:Grek 1df8+1:CyrlLatnSyrc 1dfa+1:Syrc
202f+1:LatnMongPhag 204f+1:AdlmArab 205a+1:CariGeorGlagHungLyciOrkh 205d+1:CariGrekHungMero
20f0+1:DevaGranLatn 2e17+1:CoptLatn 2e30+1:AvstOrkh 2e31+1:AvstCariGeorHungKthiLydiSamr 2e3c+1:Dupl
2e41+1:AdlmArabHung 2e43+1:CyrlGlag 2ff0+10:HaniTang 3001+1:BopoHangHaniHiraKanaMongYiii
3002+1:BopoHangHaniHiraKanaMongPhagYiii 3003+1:BopoHangHaniHiraKana 3006+1:Hani
3008+2:BopoHangHaniHiraKanaMongTibtYiii 300a+2:BopoHangHaniHiraKanaLisuMongTibtYiii
300c+6:BopoHangHaniHiraKanaYiii 3013+1:BopoHangHaniHiraKana 3014+8:BopoHangHaniHiraKanaYiii
301c+4:BopoHangHaniHiraKana 302a+4:BopoHani 3030+1:BopoHangHaniHiraKana 3031+5:HiraKana
3037+1:BopoHangHaniHiraKana 303c+2:HaniHiraKana 303e+2:Hani 3099+4:HiraKana 30a0+1:HiraKana
30fb+1:BopoHangHaniHiraKanaYiii 30fc+1:HiraKana 3190+10:Hani 31c0+26:Hani 31ef+1:HaniTang
3220+28:Hani 3280+31:Hani 32c0+c:Hani 32ff+1:Hani 3358+19:Hani 337b+5:Hani 33e0+1f:Hani
a66f+1:CyrlGlag a700+8:HaniLatn
a830+3:DevaDogrGujrGuruKhojKndaKthiMahjMlymModiNandShrdSindTakrTirhTutg
a833+3:DevaDogrGujrGuruKhojKndaKthiMahjModiNandShrdSindTakrTirhTutg
a836+2:DevaDogrGujrGuruKhojKthiMahjModiSindTakrTirh
a838+1:DevaDogrGujrGuruKhojKthiMahjModiShrdSindTakrTirh
a839+1:DevaDogrGujrGuruKhojKthiMahjModiSindTakrTirh a8f1+1:BengDevaTutg a8f3+1:DevaTaml
a92e+1:KaliLatnMymr a9cf+1:BugiJava fd3e+2:ArabNkoo fdf2+1:ArabThaa fdfd+1:ArabThaa
fe45+2:BopoHangHaniHiraKana ff61+5:BopoHangHaniHiraKanaYiii ff70+1:HiraKana ff9e+2:HiraKana
10100+2:CpmnCprtLinb 10102+1:CprtLinb 10107+2d:CprtLinaLinb 10137+9:CprtLinb 102e0+1c:ArabCopt
10af2+1:ManiOugr 11301+1:GranTaml 11303+1:GranTaml 1133b+2:GranTaml 11fd0+2:GranTaml
11fd3+1:GranTaml 1bca0+4:Dupl 1d360+12:Hani 1f250+2:Hani"

def readShared (entry : String) : Option (Nat × Nat × String) :=
  match entry.splitOn ":" with
  | [span, codes] =>
    match hexNumbers span.toList with
    | [start, length] => some (start, length, codes)
    | _ => none
  | _ => none

def shared : List (Nat × Nat × String) :=
  ((sharedTable.splitOn "\n").flatMap (·.splitOn " ")).filterMap readShared

def usedWith (code : String) (c : Char) : Bool :=
  match shared.find? fun (start, length, _) => start ≤ c.toNat && c.toNat < start + length with
  | some (_, _, codes) => (codes.splitOn code).length > 1
  | none => of c == code

def names : List (List String) :=
  ((table.splitOn "\n").flatMap (·.splitOn " ")).map (·.splitOn "=")
where
  table : String := "Adlm=Adlam Aghb=Caucasian_Albanian Ahom=Ahom Arab=Arabic
Armi=Imperial_Aramaic Armn=Armenian
Avst=Avestan Bali=Balinese Bamu=Bamum Bass=Bassa_Vah Batk=Batak Beng=Bengali Bhks=Bhaiksuki
Bopo=Bopomofo Brah=Brahmi Brai=Braille Bugi=Buginese Buhd=Buhid Cakm=Chakma Cans=Canadian_Aboriginal
Cari=Carian Cham=Cham Cher=Cherokee Chrs=Chorasmian Copt=Coptic=Qaac Cpmn=Cypro_Minoan Cprt=Cypriot
Cyrl=Cyrillic Deva=Devanagari Diak=Dives_Akuru Dogr=Dogra Dsrt=Deseret Dupl=Duployan
Egyp=Egyptian_Hieroglyphs Elba=Elbasan Elym=Elymaic Ethi=Ethiopic Geor=Georgian Glag=Glagolitic
Gong=Gunjala_Gondi Gonm=Masaram_Gondi Goth=Gothic Gran=Grantha Grek=Greek Gujr=Gujarati
Guru=Gurmukhi Hang=Hangul Hani=Han Hano=Hanunoo Hatr=Hatran Hebr=Hebrew Hira=Hiragana
Hluw=Anatolian_Hieroglyphs Hmng=Pahawh_Hmong Hmnp=Nyiakeng_Puachue_Hmong Hung=Old_Hungarian
Ital=Old_Italic Java=Javanese Kali=Kayah_Li Kana=Katakana Kawi=Kawi Khar=Kharoshthi Khmr=Khmer
Khoj=Khojki Kits=Khitan_Small_Script Knda=Kannada Kthi=Kaithi Lana=Tai_Tham Laoo=Lao Latn=Latin
Lepc=Lepcha Limb=Limbu Lina=Linear_A Linb=Linear_B Lisu=Lisu Lyci=Lycian Lydi=Lydian Mahj=Mahajani
Maka=Makasar Mand=Mandaic Mani=Manichaean Marc=Marchen Medf=Medefaidrin Mend=Mende_Kikakui
Merc=Meroitic_Cursive Mero=Meroitic_Hieroglyphs Mlym=Malayalam Modi=Modi Mong=Mongolian Mroo=Mro
Mtei=Meetei_Mayek Mult=Multani Mymr=Myanmar Nagm=Nag_Mundari Nand=Nandinagari Narb=Old_North_Arabian
Nbat=Nabataean Newa=Newa Nkoo=Nko Nshu=Nushu Ogam=Ogham Olck=Ol_Chiki Orkh=Old_Turkic Orya=Oriya
Osge=Osage Osma=Osmanya Ougr=Old_Uyghur Palm=Palmyrene Pauc=Pau_Cin_Hau Perm=Old_Permic
Phag=Phags_Pa Phli=Inscriptional_Pahlavi Phlp=Psalter_Pahlavi Phnx=Phoenician Plrd=Miao
Prti=Inscriptional_Parthian Rjng=Rejang Rohg=Hanifi_Rohingya Runr=Runic Samr=Samaritan
Sarb=Old_South_Arabian Saur=Saurashtra Sgnw=SignWriting Shaw=Shavian Shrd=Sharada Sidd=Siddham
Sind=Khudawadi Sinh=Sinhala Sogd=Sogdian Sogo=Old_Sogdian Sora=Sora_Sompeng Soyo=Soyombo
Sund=Sundanese Sylo=Syloti_Nagri Syrc=Syriac Tagb=Tagbanwa Takr=Takri Tale=Tai_Le Talu=New_Tai_Lue
Taml=Tamil Tang=Tangut Tavt=Tai_Viet Telu=Telugu Tfng=Tifinagh Tglg=Tagalog Thaa=Thaana Thai=Thai
Tibt=Tibetan Tirh=Tirhuta Tnsa=Tangsa Toto=Toto Ugar=Ugaritic Vaii=Vai Vith=Vithkuqi
Wara=Warang_Citi Wcho=Wancho Xpeo=Old_Persian Xsux=Cuneiform Yezi=Yezidi Yiii=Yi
Zanb=Zanabazar_Square Zinh=Inherited=Qaai Zyyy=Common Sunu=Sunuwar Gara=Garay Gukh=Gurung_Khema
Krai=Kirat_Rai Onao=Ol_Onal Todr=Todhri Tutg=Tulu_Tigalari"

def plain (name : String) : String := (name.toLower.toList.filter (· != '_')) |> String.ofList

def named? (name : String) : Option String :=
  (names.find? fun aliases => aliases.any fun a => plain a == name).bind List.head?

end Dictation.Character.Script
