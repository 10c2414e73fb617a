import Dictation.Character.CodeSet

namespace Dictation.Character

/-- The general categories, in the order of the letters that stand for them in the table. -/
inductive Category where
  | uppercaseLetter
  | lowercaseLetter
  | titlecaseLetter
  | modifierLetter
  | otherLetter
  | nonspacingMark
  | spacingMark
  | enclosingMark
  | decimalNumber
  | letterNumber
  | otherNumber
  | connectorPunctuation
  | dashPunctuation
  | openPunctuation
  | closePunctuation
  | initialPunctuation
  | finalPunctuation
  | otherPunctuation
  | mathSymbol
  | currencySymbol
  | modifierSymbol
  | otherSymbol
  | spaceSeparator
  | lineSeparator
  | paragraphSeparator
  | control
  | format
  | privateUse
  | unassigned
  deriving DecidableEq, Repr

namespace Category

def all : List Category :=
  [.uppercaseLetter, .lowercaseLetter, .titlecaseLetter, .modifierLetter, .otherLetter,
   .nonspacingMark, .spacingMark, .enclosingMark, .decimalNumber, .letterNumber, .otherNumber,
   .connectorPunctuation, .dashPunctuation, .openPunctuation, .closePunctuation,
   .initialPunctuation, .finalPunctuation, .otherPunctuation, .mathSymbol, .currencySymbol,
   .modifierSymbol, .otherSymbol, .spaceSeparator, .lineSeparator, .paragraphSeparator,
   .control, .format, .privateUse, .unassigned]

def ofLetter? (c : Char) : Option Category :=
  ((("ABCDEFGHIJKLMNOPQRSTUVWXYZghi".toList).zip all).find? (·.1 == c)).map (·.2)

/-- The runs of a table: where each one ends, and its category. -/
def readRuns (cs : List Char) : Array Nat × Array Category :=
  go cs none 0 #[] #[]
where
  close (run : Option (Category × Nat)) (position : Nat) (ends : Array Nat)
      (kinds : Array Category) : Nat × Array Nat × Array Category :=
    match run with
    | none => (position, ends, kinds)
    | some (kind, length) =>
      let stop := position + max length 1
      (stop, ends.push stop, kinds.push kind)
  go : List Char → Option (Category × Nat) → Nat → Array Nat → Array Category →
    Array Nat × Array Category
    | [], run, position, ends, kinds => (close run position ends kinds).2
    | c :: cs, run, position, ends, kinds =>
      match ofLetter? c with
      | some kind =>
        let (position, ends, kinds) := close run position ends kinds
        go cs (some (kind, 0)) position ends kinds
      | none =>
        if c.isDigit then
          go cs (run.map fun r => (r.1, 10 * r.2 + (c.toNat - 48))) position ends kinds
        else go cs run position ends kinds

def runs : Array Nat × Array Category := readRuns table.toList
where
  table : String := "Z32WR3TR3NORSRMR2I10R2S3R2A26NROULUB26NSOSZ33WRT4VRUVEPSgVUVSK2UBR2UKEQK3R
A23SA7B24SB8ABABABABABABAB
ABABABABABABABABABABABABABABABABABABABABAB2ABABABABABABABAB2ABABABABABABABABABABABABABABABABABABABAB
ABABABA2BABAB3A2BABA2BA3B2A4BA2BA3B3A2BA2BABABA2BAB2ABA2BA3BABA2B2EAB3E4ACBACBACBABABABABABABABAB2AB
ABABABABABABABAB2ACBABA3BABABABABABABABABABABABABABABABABABABABABABABABABABABABABAB7A2BA2B2ABA4BABAB
ABAB69E2B26D18U4D12U14D5U7DUDU17F112ABABDUABi2DB3RAi4U2ARA3iAiA2BA17iA9B35AB2A3B3ABABABABABABABABABA
BABAB5ABSABA2B2A51B48ABABABABABABABABABABABABABABABABABVF5H2ABABABABABABABABABABABABABABABABABABABAB
ABABABABABABABA2BABABABABABAB2ABABABABABABABABABABABABABABABABABABABABABABABABABABABABABABABABABABAB
ABABABABABABABABABABABABABiA38i2DR6B41RMi2V2TiF45MFRF2RF2RFi8E27i4E4R2i11g6S3R2TR2V2F11RgR3E32DE10
F21I10R4E2FE99REF7gVF6D2F2VF4E2I10E3V2ER14igEFE30F27i2E89F11Ei14I10E33F9D2VR3Di2FT2E22F4DF9DF3DF5i2
R15iE25F3i2RiE11i5E24UE7g2i5F9E41DF24gF32GE54FGFEG3F8G4FG2EF7E10F2R2I10RDE15FG2iE8i2E2i2E22iE7iEi3E4
i2FEG3F4i2G2i2G2FEi8Gi4E2iE3F2i2I10E2T2K6VTERFi2F2GiE6i4E2i2E22iE7iE2iE2iE2i2FiG3F2i4F2i2F3i3Fi7E4iE
i7I10F2E3FRi10F2GiE9iE3iE22iE7iE2iE5i2FEG3F5iF2GiG2Fi2Ei15E2F2i2I10RTi7EF6iFG2iE8i2E2i2E22iE7iE2iE5
i2FEGFGF4i2G2i2G2Fi7F2Gi4E2iE3F2i2I10VEK6i10FEiE6i3E3iE4i3E2iEiE2i3E2i3E3i3E12i4G2FG2i3G3iG3Fi2Ei6G
i14I10K3V6TVi5FG3FE8iE3iE23iE16i2FEF3G4iF3iF4i7F2iE3iE2i2E2F2i2I10i7RK7VEFG2RE8iE3iE23iE10iE5i2FEGF
G5iFG2iG2F2i7G2i5E3iE2F2i2I10iE2Gi12F2G2E9iE3iE41F2EG3F4iG3iG3FEVi4E3GK7E3F2i2I10K9VE6iFG2iE18i3E24i
E9iEi2E7i3Fi4G3F3iFiG8i6I10i2G2Ri12E48FE2F7i4TE6DF8RI10R2i37E2iEiE5iE24iEiE10FE2F9Ei2E5iDiF7iI10i2E4
i32EV3R15VRV3F2V6I10K10VFVFVFNONOG2E8iE36i4F14GF5RF2E5F11iF36iV8FV6iV2R5V4R2i37E43G2F4GF6GF2G2F2EI10
R6E6G2F2E4F3EG3E2G7E3F4E13FG2F2G6FEGI10G3FV2A38iAi5Ai2B43RDB3E329iE4i2E7iEiE4i2E41iE4i2E33iE4i2E7iEi
E4i2E15iE57iE4i2E67i2F3R9K20i3E16V10i6A86i2B6i2ME620VRE17WE26NOi3E75R3J3E8i7E18F3Gi9E19F2GR2i9E18F2
i12E13iE3iF2i12E52F2GF7G8FG2F11R3DR3TEFi2I10i6K10i6R6MR4F3gFI10i6E35DE53i7E5F2E34FEi5E70i10E31iF3G4
F2G3i4G2FG6F3i4Vi3R2I10E30i2E5i11E44i4E26i6I10Ki3V34E23F2G2Fi2R2E53GFGF7iFGFG2F8G6F10i2FI10i6I10i6R7
DR6i2F14HF31i2F12i20F4GE47FGF5GFG5FG2E8iR2I10R7V10F9V9R3F2GE30GF4G2F2GF3E2I10E44FGF2G3FGF3G2i8R4E36
G8F8G2F2i3R5I10i3E3I10E30D6R2B9ABi5A43i2A3R8i8F3RF13GF7E4FE6FE2GF2Ei5B44D63B13DB34D37F64ABABABABABAB
ABABABABABABABABABABABABABABABABABABABABABABABABABABABABABABABABABABABABABABABABABABABABABABABABABAB
ABABABABABABABABABABABABABABABABABABAB9ABABABABABABABABABABABABABABABABABABABABABABABABABABABABABABA
BABABABABABABABABABABABABABABABABABAB9A8B6i2A6i2B8A8B8A8B6i2A6i2B8iAiAiAiAB8A8B14i2B8C8B8C8B8C8B5iB2
A4CUBU3B3iB2A4CU3B4i2B2A4iU3B8A5U3i2B3iB2A4CU2iW11g5M6R2PQNP2QNPR8XYg5WR9PQR4L2R3SNOR11SRLR10Wg5ig10
KDi2K6S3NODK10S3NOiD13i3T34i14F13H4FH3F12i15V2AV4AV2BA3B2A3BVAV2SA5V6AVAVAVA4VBA4BE4BV2B2A2S5AB4VSV2
BVK16J35ABJ4KV2i4S5V5S2V4SV2SV2SV7SV31S2V2SVSV31S268V8NONOV20S2V7NOV81SV30S25V40S6V72i22V11i21K60V78
K22V183SV9SV54S8V111SV248NONONONONONONOK30V44S5NOS31NONONONONOS16V256S131NONONONONONONONONONONOS63NO
NOS32NOS258V48S21V2S6V39i2V138A48B48ABA3B2ABABABA4BAB2AB6D2A3BABABABABABABABABABABABABABABABABABABAB
ABABABABABABABABABABABABABABABABABABABABABABABABABABABABABAB2V6ABABF3ABi5R4KR2B38iBi5Bi2E56i7DRi14F
E23i9E7iE7iE7iE7iE7iE7iE7iE7iF32R2PQPQR3PQRPQR9MR2MRPQR2PQNONONONOR5DR10M2R4MRNR13V2R3NONONONOMi34
V26iV89i12V214i26V16WR3VDEJNONONONONOV2NONONONOMNO2VJ9F4G2MD5V2J3DERV2iE86i2F2U2D2EME90RD3Ei5E43iE94
iV2K4V10E32V38i9VE16V31iK10V30K8VK15V32K10V39K15V320E6592V64E21013DE1143i3V55i9E40D6R2E268DR3E16I10
E2i20ABABABABABABABABABABABABABABABABABABABABABABABEFH3RF10RDABABABABABABABABABABABABABABD2F2E70J10
F2R6i8U23D9U2ABABABABABABAB3ABABABABABABABABABABABABABABABABABABABABABABABABABABABABABABABDB8ABABA2B
ABABABABDU2ABABEABAB3ABABABABABABABABABABA5BA5BABABABABABABABA4BABA2BABABABABABABABAi20D4ABED2BE7FE3
FE4FE23G2F2GV4Fi3K6V2TVi6E52R4i8G2E50G16F2i8R2I10i6F18E6R3ERE2FI10E28F8R2E23F11G2i11RE29i3F3GE47FG2
F4G2F2G3R13iDI10i4R2E5FDE9I10E5iE41F6G2F2G2F2i9E3FE8FGi2I10i2R4E16DE6V3EGFGE50FEF3E2F2E5F2EFEi24E2D
R2E11GF2G2R2ED2GFi10E6i2E6i2E6i9E7iE7iB43UD4B9DU2i4B80E35G2FG2FG2RGFi2I10i6E11172i12E23i4E49i2052
h6400E366i2E106i38B7i12B5i5EFE10SE13iE5iEiE2iE2iE108U17V16E363ONV16E64V2E54V8i32E12TV3F16R7NORi6F16R
M2L2NONONONONONONONOR2NOR4L3R3iR4MNONONOR3SMS3iRTR2i4E5iE135i2giR3TR3NORSRMR2I10R2S3R2A26NROULUB26NS
OSNORNOR2E10DE45D2E31i3E6i2E6i2E6i2E3i3T2SUVT2iVS4V2i10g3V2i2E12iE26iE19iE2iE15i2E14i34E123i5R3i4K45
i3V9J53K4V17K2V3iV13i3Vi47V45Fi130E29i3E49i15FK27i4E32K4i9E20JE8Ji5E38F5i5E30iRE36i4E8RJ5i42A40B40
E78i2I10i6A36i4B36i4E40i8E52i11RA11iA15iA7iA2iB11iB15iB7iB2i3E52i12E311i9E22i10E8i24D6iD42iD9i69E6i2
EiE44iE2i3Ei2E23iRK8E23V2K7E31i8K9i48E19iE2i5K5E22K6i3RE26i5RE26i38E56i4K2E2K16i2K46EF3iF2i5F4E4iE3i
E29i2F3i4FK9i7R9i7E29K2RE29K3i32E8VE28F2i4K5R7i9E54i3R7E22i2K8E19i5K8E18i7R4i12K7i80E73i55A51i13B51
i7K6E36F4i8I10i6I10E4DEA22i3F5MDB22i8S2i208K31iE42iF2Mi2E2i16E3DE2i8RV8i33F6E29K10Ei8E22F11K4R5i22
E18F4R4i38E21K7i20E23i9GFGE53F15R7i4K20I10FE2F2Ei9F3GE45G3F4G2F2R2gR4Fi10gi2E25i7I10i6F3E36F5GF8iI10
R4EG2Ei8E35FR2Ei9F2GE48G3F9G2E4R4F4RGFI10ERER3iK20i11E18iE25G3F3G2FGF2R6FE2Fi62E7iEiE4iE15iE10Ri6E47
FG3F8i5I10i6F2G2iE8i2E2i2E22iE7iE2iE5iF2EG2FG4i2G2i2G3i2Ei6Gi5E5G2i2F7i3F5i11E10iEi2EiE38iEG3F6iGi2G
iG4iG2FGFEFER2iR2i8F2i29E53G3F8G2F3GFE4R5I10R2iRFE3i30E48G3F6GFG4F2GF2E2REi8I10i166E47G3F4i2G4F2GF2
R23E4F2i34E48G3F8G2FGF2R3Ei11I10i6R13i19E43FGFG2F6GFERi6I10i6I20i28E27i2FGFG2F4GF5i4I10K2R3VE7i185
E44G3F9GF2Ri100A32B32I10K9i12E8i2Ei2E8iE2iE24G6iG2i2F2GFEGEGFR3i9I10i70E8i2E39G3F4i2F2G4FEREGi27EF10
E40F6GEF4R8Fi8EF6G2F3E46F13GF2R3ER5i13E73i7R10i86FGF3GFGi88E33Ri14I10i6E9iE37GF7iF6GFER5i10I10K19i3
R2E30i2F22iGF7GF2GF2i73E7iE2iE38F6i3FiF2iF7EFi8I10i6E6iE2iE32G5iF2iG2FGFEi7I10i6E41DE2i4I10i246E19F2
G2R2i7F2EGE13iE34G2F5i3G2FGFR13I10Fi85Ei15K21V8T4V17i13RE922i102J111iR5i11E196i2636E97R2i13E1072g16F
E6F15i10E3995i5E583i6841E30F12G3F3I10i1734E569i7E31iI10i4R2E79iI10i6E30i2F5Ri10E48F7R5V4D4RVi10I10i
K7iE21i5E19i432D3E40D2R3I10i198A32B32K23R4i5A25i2B25i44E75i4FEG55i7F4D13i64D2RDFi11G2D2J3i9E7382i41
E32i97E115i8701D4iD7iD2iE291i15Ei29E3i2Ei14E4i8E396i2308E107i5E13i3E9i7E10i2VF2Rg4i3932V240I10V3i3
V436i6V23i15V16Si15F46i2F23i9V116i60V246i10V39i2V60G2F3V3G6g8F8V2F7V30F4V61i21V66F3Vi122K20i12K20i12
V87i9K25i135A26B26A26B7iB18A26B26AiA2i2Ai2A2i2A4iA8B4iBiB7iB11A26B26A2iA4i2A8iA7iB26A2iA4iA5iAi3A7i
B26A26B26A26B26A26B26A26B26A26B26A26B28i2A25SB25SB6A25SB25SB6A25SB25SB6A25SB25SB6A25SB25SB6ABi2I50
V512F55V4F50V8FV14FV2R5i15F5iF15i1104B10EB20i6B6i213F7iF17i2F7iF2iF5i5D62i33Fi112E45i3F7D7i2I10i4EV
i320E30Fi17E44F4I10i5Ti464E27DF4I10i214E30F2EI10i4Ri192E31iE3FE2FE7F2E5Fi8EDi224E7iE4iE2iE15iE197i2
K9F7i41A34B34F7Di4I10i4R2i785K59VK3TK4i76K45VK15i194E4iE27iE2iEi2EiE10iE4iEiEi6Ei4EiEiEiE3iE2iEi2EiE
iEiEiEiE2iEi2E4iE7iE4iE4iEiE10iE17i5E3iE5iE17i52S2i270V44i4V100i12V15i2V15iV15iV37i10K13V161i56V29
i13V44i4V9i7V2i14V6i154V251U5V729i3V17i3V13i3V218i6V12i4Vi15V12i4V56i8V10i6V40i8V30i2V12i4V2i14S9i39
V344i8V14i2V13i3V11i3V57iVi4V16i2V12i4V10i7V147iV92I10Vi1029E42720i32E4382i2E5774i2E7473i15E622i2466
E542i1506E4939i5E8490i707463gi30g96i128F240i65040h65534i2h65534i2"

def of (c : Char) : Category := (runs.2[rank runs.1 c.toNat]?).getD .unassigned

def isLetter : Category → Bool
  | .uppercaseLetter | .lowercaseLetter | .titlecaseLetter | .modifierLetter | .otherLetter => true
  | _ => false

def isCasedLetter : Category → Bool
  | .uppercaseLetter | .lowercaseLetter | .titlecaseLetter => true
  | _ => false

def isMark : Category → Bool
  | .nonspacingMark | .spacingMark | .enclosingMark => true
  | _ => false

def isNumber : Category → Bool
  | .decimalNumber | .letterNumber | .otherNumber => true
  | _ => false

def isPunctuation : Category → Bool
  | .connectorPunctuation | .dashPunctuation | .openPunctuation | .closePunctuation
  | .initialPunctuation | .finalPunctuation | .otherPunctuation => true
  | _ => false

def isSymbol : Category → Bool
  | .mathSymbol | .currencySymbol | .modifierSymbol | .otherSymbol => true
  | _ => false

def isSeparator : Category → Bool
  | .spaceSeparator | .lineSeparator | .paragraphSeparator => true
  | _ => false

def isOther : Category → Bool
  | .control | .format | .privateUse | .unassigned => true
  | _ => false

end Category

end Dictation.Character
