/-
  VirtualService/Text/Script.lean
  ===============================
  **The scripts of characters.**

  Each script is written as its runs of code points in hexadecimal.  A character
  shared by several scripts is common or inherited.
-/
import VirtualService.Text.CharSet

namespace VirtualService.Script

/-- Characters of the script Arabic. -/
def arabic : CharSet := CharSet.ofLines [
  "600-604 606-60B 60D-61A 61C-61E 620-63F 641-64A 656-66F 671-6DC 6DE-6FF 750-77F 870-891",
  "897-8E1 8E3-8FF FB50-FD3D FD40-FDCF FDF0-FDFF FE70-FE74 FE76-FEFC 10E60-10E7E 10EC2-10EC7",
  "10ED0-10ED8 10EFA-10EFF 1EE00-1EE03 1EE05-1EE1F 1EE21-1EE22 1EE24 1EE27 1EE29-1EE32",
  "1EE34-1EE37 1EE39 1EE3B 1EE42 1EE47 1EE49 1EE4B 1EE4D-1EE4F 1EE51-1EE52 1EE54 1EE57 1EE59",
  "1EE5B 1EE5D 1EE5F 1EE61-1EE62 1EE64 1EE67-1EE6A 1EE6C-1EE72 1EE74-1EE77 1EE79-1EE7C 1EE7E",
  "1EE80-1EE89 1EE8B-1EE9B 1EEA1-1EEA3 1EEA5-1EEA9 1EEAB-1EEBB 1EEF0-1EEF1"]

/-- Characters of the script Armenian. -/
def armenian : CharSet := CharSet.ofLines [
  "531-556 559-58A 58D-58F FB13-FB17"]

/-- Characters of the script Bengali. -/
def bengali : CharSet := CharSet.ofLines [
  "980-983 985-98C 98F-990 993-9A8 9AA-9B0 9B2 9B6-9B9 9BC-9C4 9C7-9C8 9CB-9CE 9D7 9DC-9DD",
  "9DF-9E3 9E6-9FE"]

/-- Characters of the script Bopomofo. -/
def bopomofo : CharSet := CharSet.ofLines [
  "2EA-2EB 3105-312F 31A0-31BF"]

/-- Characters of the script Braille. -/
def braille : CharSet := CharSet.ofLines [
  "2800-28FF"]

/-- Characters of the script Canadian Aboriginal. -/
def canadianAboriginal : CharSet := CharSet.ofLines [
  "1400-167F 18B0-18F5 11AB0-11ABF"]

/-- Characters of the script Cherokee. -/
def cherokee : CharSet := CharSet.ofLines [
  "13A0-13F5 13F8-13FD AB70-ABBF"]

/-- Characters of the script Common. -/
def common : CharSet := CharSet.ofLines [
  "0-40 5B-60 7B-A9 AB-B9 BB-BF D7 F7 2B9-2DF 2E5-2E9 2EC-2FF 374 37E 385 387 605 60C 61B 61F",
  "640 6DD 8E2 964-965 E3F FD5-FD8 10FB 16EB-16ED 1735-1736 1802-1803 1805 1CD3 1CE1 1CE9-1CEC",
  "1CEE-1CF3 1CF5-1CF7 1CFA 2000-200B 200E-2064 2066-2070 2074-207E 2080-208E 20A0-20C1",
  "2100-2125 2127-2129 212C-2131 2133-214D 214F-215F 2189-218B 2190-2429 2440-244A 2460-27FF",
  "2900-2B73 2B76-2BFF 2E00-2E5D 2FF0-3004 3006 3008-3020 3030-3037 303C-303F 309B-309C 30A0",
  "30FB-30FC 3190-319F 31C0-31E5 31EF 3220-325F 327F-32CF 32FF 3358-33FF 4DC0-4DFF A700-A721",
  "A788-A78A A830-A839 A92E A9CF AB5B AB6A-AB6B FD3E-FD3F FE10-FE19 FE30-FE52 FE54-FE66",
  "FE68-FE6B FEFF FF01-FF20 FF3B-FF40 FF5B-FF65 FF70 FF9E-FF9F FFE0-FFE6 FFE8-FFEE FFF9-FFFD",
  "10100-10102 10107-10133 10137-1013F 10190-1019C 101D0-101FC 102E1-102FB 1BCA0-1BCA3",
  "1CC00-1CCFC 1CD00-1CEB3 1CEBA-1CED0 1CEE0-1CEF0 1CF50-1CFC3 1D000-1D0F5 1D100-1D126",
  "1D129-1D166 1D16A-1D17A 1D183-1D184 1D18C-1D1A9 1D1AE-1D1EA 1D2C0-1D2D3 1D2E0-1D2F3",
  "1D300-1D356 1D360-1D378 1D400-1D454 1D456-1D49C 1D49E-1D49F 1D4A2 1D4A5-1D4A6 1D4A9-1D4AC",
  "1D4AE-1D4B9 1D4BB 1D4BD-1D4C3 1D4C5-1D505 1D507-1D50A 1D50D-1D514 1D516-1D51C 1D51E-1D539",
  "1D53B-1D53E 1D540-1D544 1D546 1D54A-1D550 1D552-1D6A5 1D6A8-1D7CB 1D7CE-1D7FF 1EC71-1ECB4",
  "1ED01-1ED3D 1F000-1F02B 1F030-1F093 1F0A0-1F0AE 1F0B1-1F0BF 1F0C1-1F0CF 1F0D1-1F0F5",
  "1F100-1F1AD 1F1E6-1F1FF 1F201-1F202 1F210-1F23B 1F240-1F248 1F250-1F251 1F260-1F265",
  "1F300-1F6D8 1F6DC-1F6EC 1F6F0-1F6FC 1F700-1F7D9 1F7E0-1F7EB 1F7F0 1F800-1F80B 1F810-1F847",
  "1F850-1F859 1F860-1F887 1F890-1F8AD 1F8B0-1F8BB 1F8C0-1F8C1 1F8D0-1F8D8 1F900-1FA57",
  "1FA60-1FA6D 1FA70-1FA7C 1FA80-1FA8A 1FA8E-1FAC6 1FAC8 1FACD-1FADC 1FADF-1FAEA 1FAEF-1FAF8",
  "1FB00-1FB92 1FB94-1FBFA E0001 E0020-E007F"]

/-- Characters of the script Coptic. -/
def coptic : CharSet := CharSet.ofLines [
  "3E2-3EF 2C80-2CF3 2CF9-2CFF"]

/-- Characters of the script Cyrillic. -/
def cyrillic : CharSet := CharSet.ofLines [
  "400-484 487-52F 1C80-1C8A 1D2B 1D78 2DE0-2DFF A640-A69F FE2E-FE2F 1E030-1E06D 1E08F"]

/-- Characters of the script Deseret. -/
def deseret : CharSet := CharSet.ofLines [
  "10400-1044F"]

/-- Characters of the script Devanagari. -/
def devanagari : CharSet := CharSet.ofLines [
  "900-950 955-963 966-97F A8E0-A8FF 11B00-11B09"]

/-- Characters of the script Ethiopic. -/
def ethiopic : CharSet := CharSet.ofLines [
  "1200-1248 124A-124D 1250-1256 1258 125A-125D 1260-1288 128A-128D 1290-12B0 12B2-12B5",
  "12B8-12BE 12C0 12C2-12C5 12C8-12D6 12D8-1310 1312-1315 1318-135A 135D-137C 1380-1399",
  "2D80-2D96 2DA0-2DA6 2DA8-2DAE 2DB0-2DB6 2DB8-2DBE 2DC0-2DC6 2DC8-2DCE 2DD0-2DD6 2DD8-2DDE",
  "AB01-AB06 AB09-AB0E AB11-AB16 AB20-AB26 AB28-AB2E 1E7E0-1E7E6 1E7E8-1E7EB 1E7ED-1E7EE",
  "1E7F0-1E7FE"]

/-- Characters of the script Georgian. -/
def georgian : CharSet := CharSet.ofLines [
  "10A0-10C5 10C7 10CD 10D0-10FA 10FC-10FF 1C90-1CBA 1CBD-1CBF 2D00-2D25 2D27 2D2D"]

/-- Characters of the script Glagolitic. -/
def glagolitic : CharSet := CharSet.ofLines [
  "2C00-2C5F 1E000-1E006 1E008-1E018 1E01B-1E021 1E023-1E024 1E026-1E02A"]

/-- Characters of the script Gothic. -/
def gothic : CharSet := CharSet.ofLines [
  "10330-1034A"]

/-- Characters of the script Greek. -/
def greek : CharSet := CharSet.ofLines [
  "370-373 375-377 37A-37D 37F 384 386 388-38A 38C 38E-3A1 3A3-3E1 3F0-3FF 1D26-1D2A 1D5D-1D61",
  "1D66-1D6A 1DBF 1F00-1F15 1F18-1F1D 1F20-1F45 1F48-1F4D 1F50-1F57 1F59 1F5B 1F5D 1F5F-1F7D",
  "1F80-1FB4 1FB6-1FC4 1FC6-1FD3 1FD6-1FDB 1FDD-1FEF 1FF2-1FF4 1FF6-1FFE 2126 AB65 10140-1018E",
  "101A0 1D200-1D245"]

/-- Characters of the script Gujarati. -/
def gujarati : CharSet := CharSet.ofLines [
  "A81-A83 A85-A8D A8F-A91 A93-AA8 AAA-AB0 AB2-AB3 AB5-AB9 ABC-AC5 AC7-AC9 ACB-ACD AD0 AE0-AE3",
  "AE6-AF1 AF9-AFF"]

/-- Characters of the script Gurmukhi. -/
def gurmukhi : CharSet := CharSet.ofLines [
  "A01-A03 A05-A0A A0F-A10 A13-A28 A2A-A30 A32-A33 A35-A36 A38-A39 A3C A3E-A42 A47-A48 A4B-A4D",
  "A51 A59-A5C A5E A66-A76"]

/-- Characters of the script Han. -/
def han : CharSet := CharSet.ofLines [
  "2E80-2E99 2E9B-2EF3 2F00-2FD5 3005 3007 3021-3029 3038-303B 3400-4DBF 4E00-9FFF F900-FA6D",
  "FA70-FAD9 16FE2-16FE3 16FF0-16FF6 20000-2A6DF 2A700-2B81D 2B820-2CEAD 2CEB0-2EBE0",
  "2EBF0-2EE5D 2F800-2FA1D 30000-3134A 31350-33479"]

/-- Characters of the script Hangul. -/
def hangul : CharSet := CharSet.ofLines [
  "1100-11FF 302E-302F 3131-318E 3200-321E 3260-327E A960-A97C AC00-D7A3 D7B0-D7C6 D7CB-D7FB",
  "FFA0-FFBE FFC2-FFC7 FFCA-FFCF FFD2-FFD7 FFDA-FFDC"]

/-- Characters of the script Hebrew. -/
def hebrew : CharSet := CharSet.ofLines [
  "591-5C7 5D0-5EA 5EF-5F4 FB1D-FB36 FB38-FB3C FB3E FB40-FB41 FB43-FB44 FB46-FB4F"]

/-- Characters of the script Hiragana. -/
def hiragana : CharSet := CharSet.ofLines [
  "3041-3096 309D-309F 1B001-1B11F 1B132 1B150-1B152 1F200"]

/-- Characters of the script Inherited. -/
def inherited : CharSet := CharSet.ofLines [
  "300-36F 485-486 64B-655 670 951-954 1AB0-1ADD 1AE0-1AEB 1CD0-1CD2 1CD4-1CE0 1CE2-1CE8 1CED",
  "1CF4 1CF8-1CF9 1DC0-1DFF 200C-200D 20D0-20F0 302A-302D 3099-309A FE00-FE0F FE20-FE2D 101FD",
  "102E0 1133B 1CF00-1CF2D 1CF30-1CF46 1D167-1D169 1D17B-1D182 1D185-1D18B 1D1AA-1D1AD",
  "E0100-E01EF"]

/-- Characters of the script Kannada. -/
def kannada : CharSet := CharSet.ofLines [
  "C80-C8C C8E-C90 C92-CA8 CAA-CB3 CB5-CB9 CBC-CC4 CC6-CC8 CCA-CCD CD5-CD6 CDC-CDE CE0-CE3",
  "CE6-CEF CF1-CF3"]

/-- Characters of the script Katakana. -/
def katakana : CharSet := CharSet.ofLines [
  "30A1-30FA 30FD-30FF 31F0-31FF 32D0-32FE 3300-3357 FF66-FF6F FF71-FF9D 1AFF0-1AFF3",
  "1AFF5-1AFFB 1AFFD-1AFFE 1B000 1B120-1B122 1B155 1B164-1B167"]

/-- Characters of the script Khmer. -/
def khmer : CharSet := CharSet.ofLines [
  "1780-17DD 17E0-17E9 17F0-17F9 19E0-19FF"]

/-- Characters of the script Lao. -/
def lao : CharSet := CharSet.ofLines [
  "E81-E82 E84 E86-E8A E8C-EA3 EA5 EA7-EBD EC0-EC4 EC6 EC8-ECE ED0-ED9 EDC-EDF"]

/-- Characters of the script Latin. -/
def latin : CharSet := CharSet.ofLines [
  "41-5A 61-7A AA BA C0-D6 D8-F6 F8-2B8 2E0-2E4 1D00-1D25 1D2C-1D5C 1D62-1D65 1D6B-1D77",
  "1D79-1DBE 1E00-1EFF 2071 207F 2090-209C 212A-212B 2132 214E 2160-2188 2C60-2C7F A722-A787",
  "A78B-A7DC A7F1-A7FF AB30-AB5A AB5C-AB64 AB66-AB69 FB00-FB06 FF21-FF3A FF41-FF5A 10780-10785",
  "10787-107B0 107B2-107BA 1DF00-1DF1E 1DF25-1DF2A"]

/-- Characters of the script Malayalam. -/
def malayalam : CharSet := CharSet.ofLines [
  "D00-D0C D0E-D10 D12-D44 D46-D48 D4A-D4F D54-D63 D66-D7F"]

/-- Characters of the script Mongolian. -/
def mongolian : CharSet := CharSet.ofLines [
  "1800-1801 1804 1806-1819 1820-1878 1880-18AA 11660-1166C"]

/-- Characters of the script Myanmar. -/
def myanmar : CharSet := CharSet.ofLines [
  "1000-109F A9E0-A9FE AA60-AA7F 116D0-116E3"]

/-- Characters of the script Ogham. -/
def ogham : CharSet := CharSet.ofLines [
  "1680-169C"]

/-- Characters of the script Oriya. -/
def oriya : CharSet := CharSet.ofLines [
  "B01-B03 B05-B0C B0F-B10 B13-B28 B2A-B30 B32-B33 B35-B39 B3C-B44 B47-B48 B4B-B4D B55-B57",
  "B5C-B5D B5F-B63 B66-B77"]

/-- Characters of the script Runic. -/
def runic : CharSet := CharSet.ofLines [
  "16A0-16EA 16EE-16F8"]

/-- Characters of the script Sinhala. -/
def sinhala : CharSet := CharSet.ofLines [
  "D81-D83 D85-D96 D9A-DB1 DB3-DBB DBD DC0-DC6 DCA DCF-DD4 DD6 DD8-DDF DE6-DEF DF2-DF4",
  "111E1-111F4"]

/-- Characters of the script Syriac. -/
def syriac : CharSet := CharSet.ofLines [
  "700-70D 70F-74A 74D-74F 860-86A"]

/-- Characters of the script Tamil. -/
def tamil : CharSet := CharSet.ofLines [
  "B82-B83 B85-B8A B8E-B90 B92-B95 B99-B9A B9C B9E-B9F BA3-BA4 BA8-BAA BAE-BB9 BBE-BC2 BC6-BC8",
  "BCA-BCD BD0 BD7 BE6-BFA 11FC0-11FF1 11FFF"]

/-- Characters of the script Telugu. -/
def telugu : CharSet := CharSet.ofLines [
  "C00-C0C C0E-C10 C12-C28 C2A-C39 C3C-C44 C46-C48 C4A-C4D C55-C56 C58-C5A C5C-C5D C60-C63",
  "C66-C6F C77-C7F"]

/-- Characters of the script Thaana. -/
def thaana : CharSet := CharSet.ofLines [
  "780-7B1"]

/-- Characters of the script Thai. -/
def thai : CharSet := CharSet.ofLines [
  "E01-E3A E40-E5B"]

/-- Characters of the script Tibetan. -/
def tibetan : CharSet := CharSet.ofLines [
  "F00-F47 F49-F6C F71-F97 F99-FBC FBE-FCC FCE-FD4 FD9-FDA"]

/-- Characters of the script Yi. -/
def yi : CharSet := CharSet.ofLines [
  "A000-A48C A490-A4C6"]

/-- The scripts by their names and by their codes of four letters, both without case and joints. -/
def named : List (List String × CharSet) := [
  (["arabic", "arab"], arabic),
  (["armenian", "armn"], armenian),
  (["bengali", "beng"], bengali),
  (["bopomofo", "bopo"], bopomofo),
  (["braille", "brai"], braille),
  (["canadianaboriginal", "cans"], canadianAboriginal),
  (["cherokee", "cher"], cherokee),
  (["common", "zyyy"], common),
  (["coptic", "copt"], coptic),
  (["cyrillic", "cyrl"], cyrillic),
  (["deseret", "dsrt"], deseret),
  (["devanagari", "deva"], devanagari),
  (["ethiopic", "ethi"], ethiopic),
  (["georgian", "geor"], georgian),
  (["glagolitic", "glag"], glagolitic),
  (["gothic", "goth"], gothic),
  (["greek", "grek"], greek),
  (["gujarati", "gujr"], gujarati),
  (["gurmukhi", "guru"], gurmukhi),
  (["han", "hani"], han),
  (["hangul", "hang"], hangul),
  (["hebrew", "hebr"], hebrew),
  (["hiragana", "hira"], hiragana),
  (["inherited", "zinh"], inherited),
  (["kannada", "knda"], kannada),
  (["katakana", "kana"], katakana),
  (["khmer", "khmr"], khmer),
  (["lao", "laoo"], lao),
  (["latin", "latn"], latin),
  (["malayalam", "mlym"], malayalam),
  (["mongolian", "mong"], mongolian),
  (["myanmar", "mymr"], myanmar),
  (["ogham", "ogam"], ogham),
  (["oriya", "orya"], oriya),
  (["runic", "runr"], runic),
  (["sinhala", "sinh"], sinhala),
  (["syriac", "syrc"], syriac),
  (["tamil", "taml"], tamil),
  (["telugu", "telu"], telugu),
  (["thaana", "thaa"], thaana),
  (["thai", "thai"], thai),
  (["tibetan", "tibt"], tibetan),
  (["yi", "yiii"], yi)]

end VirtualService.Script
