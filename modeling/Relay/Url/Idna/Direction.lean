import Relay.Text.Runs

/-!
Names with letters written from right to left. Once a name holds such a letter, every label of it
has one direction, and looks the same wherever it stands.
-/

namespace Relay.Url.Idna

/-- Directions: `l` and `r` are letters written to the right and to the left, `e` European and `a`
Arabic digits, `m` marks, and `o` all others. -/
def directions : Runs :=
  Runs.ofLines [
    "0:o 30:e 3A:o 41:l 5B:o 61:l 7B:o DF:l F7:o F8:l 2B9:o 2BB:l 2C2:o 2D0:l 2D2:o 2EE:l 2EF:o",
    "300:m 371:l 375:o 377:l 3F6:o 3F8:l 483:m 48B:l 58A:o 591:m 5BE:r 5BF:m 5C0:r 5C1:m 5C3:r",
    "5C4:m 5C6:r 5C7:m 5D0:r 606:o 608:r 609:o 60B:r 60C:o 60D:r 60E:o 610:m 61B:r 64B:m 660:a",
    "66A:o 66B:a 66D:r 670:m 671:r 6D6:m 6DE:o 6DF:m 6E5:r 6E7:m 6E9:o 6EA:m 6EE:r 6F0:e 6FA:r",
    "711:m 712:r 730:m 74D:r 7A6:m 7B1:r 7EB:m 7F4:r 7F6:o 7FA:r 7FD:m 7FE:r 816:m 81A:r 81B:m",
    "824:r 825:m 828:r 829:m 830:r 859:m 85E:r 898:m 8A0:r 8CA:m 903:l 93A:m 93B:l 93C:m 93D:l",
    "941:m 949:l 94D:m 94E:l 951:m 960:l 962:m 964:l 981:m 982:l 9BC:m 9BD:l 9C1:m 9C7:l 9CD:m",
    "9CE:l 9E2:m 9E6:l 9F2:o 9F4:l 9FB:o 9FC:l 9FE:m A03:l A3C:m A3E:l A41:m A5C:l A70:m A72:l",
    "A75:m A76:l A81:m A83:l ABC:m ABD:l AC1:m AC9:l ACD:m AD0:l AE2:m AE6:l AF1:o AF9:l AFA:m",
    "B02:l B3C:m B3D:l B3F:m B40:l B41:m B47:l B4D:m B57:l B62:m B66:l B82:m B83:l BC0:m BC1:l",
    "BCD:m BD0:l BF3:o C00:m C01:l C04:m C05:l C3C:m C3D:l C3E:m C41:l C46:m C58:l C62:m C66:l",
    "C78:o C7F:l C81:m C82:l CBC:m CBD:l CCC:m CD5:l CE2:m CE6:l D00:m D02:l D3B:m D3D:l D41:m",
    "D46:l D4D:m D4E:l D62:m D66:l D81:m D82:l DCA:m DCF:l DD2:m DD8:l E31:m E32:l E34:m E3F:o",
    "E40:l E47:m E4F:l EB1:m EB2:l EB4:m EBD:l EC8:m ED0:l F18:m F1A:l F35:m F36:l F37:m F38:l",
    "F39:m F3A:o F3E:l F71:m F7F:l F80:m F85:l F86:m F88:l F8D:m FBE:l FC6:m FC7:l 102D:m 1031:l",
    "1032:m 1038:l 1039:m 103B:l 103D:m 103F:l 1058:m 105A:l 105E:m 1061:l 1071:m 1075:l 1082:m",
    "1083:l 1085:m 1087:l 108D:m 108E:l 109D:m 109E:l 135D:m 1360:l 1390:o 13A0:l 1400:o 1401:l",
    "169B:o 16A0:l 1712:m 1715:l 1732:m 1734:l 1752:m 1760:l 1772:m 1780:l 17B7:m 17BE:l 17C6:m",
    "17C7:l 17C9:m 17D4:l 17DB:o 17DC:l 17DD:m 17E0:l 17F0:o 1810:l 1885:m 1887:l 18A9:m 18AA:l",
    "1920:m 1923:l 1927:m 1929:l 1932:m 1933:l 1939:m 1940:o 1946:l 19DE:o 1A00:l 1A17:m 1A19:l",
    "1A1B:m 1A1E:l 1A56:m 1A57:l 1A58:m 1A61:l 1A62:m 1A63:l 1A65:m 1A6D:l 1A73:m 1A80:l 1AB0:m",
    "1ACF:l 1B00:m 1B04:l 1B34:m 1B35:l 1B36:m 1B3B:l 1B3C:m 1B3D:l 1B42:m 1B43:l 1B6B:m 1B74:l",
    "1B80:m 1B82:l 1BA2:m 1BA6:l 1BA8:m 1BAA:l 1BAB:m 1BAE:l 1BE6:m 1BE7:l 1BE8:m 1BEA:l 1BED:m",
    "1BEE:l 1BEF:m 1BF2:l 1C2C:m 1C34:l 1C36:m 1C3B:l 1CD0:m 1CD3:l 1CD4:m 1CE1:l 1CE2:m 1CE9:l",
    "1CED:m 1CEE:l 1CF4:m 1CF5:l 1CF8:m 1CFA:l 1DC0:m 1E01:l 200C:o 20D0:m 2104:o 214E:l 218A:o",
    "2336:l 237B:o 2395:l 2396:o 2427:l 2440:o 26AC:l 26AD:o 2800:l 2900:o 2B96:l 2B97:o 2C30:l",
    "2CE5:o 2CEC:l 2CEF:m 2CF3:l 2CF9:o 2D00:l 2D7F:m 2D80:l 2DE0:m 2E00:o 2FFC:l 3001:o 3005:l",
    "3008:o 3021:l 302A:m 302E:l 3030:o 3031:l 3037:o 303B:l 303D:o 3041:l 3099:m 309D:l 30A0:o",
    "30A1:l 30FB:o 30FC:l 31C0:o 31E4:l 4DC0:o 4E00:l A490:o A4D0:l A60D:o A610:l A66F:m A673:o",
    "A674:m A67E:o A681:l A69E:m A6A0:l A6F0:m A6F2:l A700:o A723:l A788:o A789:l A802:m A803:l",
    "A806:m A807:l A80B:m A80C:l A825:m A827:l A828:o A82C:m A830:l A838:o A840:l A874:o A880:l",
    "A8C4:m A8CE:l A8E0:m A8F2:l A8FF:m A900:l A926:m A92E:l A947:m A952:l A980:m A983:l A9B3:m",
    "A9B4:l A9B6:m A9BA:l A9BC:m A9BE:l A9E5:m A9E6:l AA29:m AA2F:l AA31:m AA33:l AA35:m AA40:l",
    "AA43:m AA44:l AA4C:m AA4D:l AA7C:m AA7D:l AAB0:m AAB1:l AAB2:m AAB5:l AAB7:m AAB9:l AABE:m",
    "AAC0:l AAC1:m AAC2:l AAEC:m AAEE:l AAF6:m AB01:l AB6A:o ABC0:l ABE5:m ABE6:l ABE8:m ABE9:l",
    "ABED:m ABF0:l FB1E:m FBB2:r FD3E:o FD90:r FDCF:o FE20:m FE45:o FE73:r 10000:l 10101:o",
    "10102:l 10140:o 1018D:l 10190:o 101D0:l 101FD:m 10280:l 102E0:m 102E1:e 10300:l 10376:m",
    "10380:l 10800:r 1091F:o 10920:r 10A01:m 10A10:r 10A38:m 10A40:r 10AE5:m 10AEB:r 10B39:o",
    "10B40:r 10D24:m 10D30:a 10D40:r 10E60:a 10E80:r 10EAB:m 10EAD:r 10EFD:m 10F00:r 10F46:m",
    "10F51:r 10F82:m 10F86:r 11000:l 11001:m 11002:l 11038:m 11047:l 11052:o 11066:l 11070:m",
    "11071:l 11073:m 11075:l 1107F:m 11082:l 110B3:m 110B7:l 110B9:m 110BB:l 110C2:m 110D0:l",
    "11100:m 11103:l 11127:m 1112C:l 1112D:m 11136:l 11173:m 11174:l 11180:m 11182:l 111B6:m",
    "111BF:l 111C9:m 111CD:l 111CF:m 111D0:l 1122F:m 11232:l 11234:m 11235:l 11236:m 11238:l",
    "1123E:m 1123F:l 11241:m 11280:l 112DF:m 112E0:l 112E3:m 112F0:l 11300:m 11302:l 1133B:m",
    "1133D:l 11340:m 11341:l 11366:m 11380:l 11438:m 11440:l 11442:m 11445:l 11446:m 11447:l",
    "1145E:m 1145F:l 114B3:m 114B9:l 114BA:m 114BB:l 114BF:m 114C1:l 114C2:m 114C4:l 115B2:m",
    "115B8:l 115BC:m 115BE:l 115BF:m 115C1:l 115DC:m 11600:l 11633:m 1163B:l 1163D:m 1163E:l",
    "1163F:m 11641:l 11660:o 11680:l 116AB:m 116AC:l 116AD:m 116AE:l 116B0:m 116B6:l 116B7:m",
    "116B8:l 1171D:m 11720:l 11722:m 11726:l 11727:m 11730:l 1182F:m 11838:l 11839:m 1183B:l",
    "1193B:m 1193D:l 1193E:m 1193F:l 11943:m 11944:l 119D4:m 119DC:l 119E0:m 119E1:l 11A01:m",
    "11A07:l 11A09:m 11A0B:l 11A33:m 11A39:l 11A3B:m 11A3F:l 11A47:m 11A50:l 11A51:m 11A57:l",
    "11A59:m 11A5C:l 11A8A:m 11A97:l 11A98:m 11A9A:l 11C30:m 11C3E:l 11C92:m 11CA9:l 11CAA:m",
    "11CB1:l 11CB2:m 11CB4:l 11CB5:m 11D00:l 11D31:m 11D46:l 11D47:m 11D50:l 11D90:m 11D93:l",
    "11D95:m 11D96:l 11D97:m 11D98:l 11EF3:m 11EF5:l 11F00:m 11F02:l 11F36:m 11F3E:l 11F40:m",
    "11F41:l 11F42:m 11F43:l 11FD5:o 11FFF:l 13440:m 13441:l 13447:m 13460:l 16AF0:m 16AF5:l",
    "16B30:m 16B37:l 16F4F:m 16F50:l 16F8F:m 16F93:l 16FE2:o 16FE3:l 16FE4:m 16FF0:l 1BC9D:m",
    "1BC9F:l 1CF00:m 1CF50:l 1D167:m 1D16A:l 1D17B:m 1D183:l 1D185:m 1D18C:l 1D1AA:m 1D1AE:l",
    "1D1E9:o 1D242:m 1D245:o 1D2C0:l 1D300:o 1D360:l 1DA00:m 1DA37:l 1DA3B:m 1DA6D:l 1DA75:m",
    "1DA76:l 1DA84:m 1DA85:l 1DA9B:m 1DF00:l 1E000:m 1E100:l 1E130:m 1E137:l 1E2AE:m 1E2C0:l",
    "1E2EC:m 1E2F0:l 1E2FF:o 1E4D0:l 1E4EC:m 1E4F0:l 1E800:r 1E8D0:m 1E922:r 1E944:m 1E94B:r",
    "1EEF0:o 1F150:l 1F16D:o 1F170:l 1F1AD:o 1F1E6:l 1F260:o 1F6D8:l 1F6DC:o 1F777:l 1F77B:o",
    "1F8B2:l 1F900:o 1FA54:l 1FA60:o 1FA89:l 1FA90:o 1FABE:l 1FABF:o 1FAC6:l 1FACE:o 1FADC:l",
    "1FAE0:o 1FAE9:l 1FAF0:o 1FBCB:l"
  ]

def direction (c : Char) : String := directions.value c

def isRightToLeft (c : Char) : Bool :=
  128 ≤ c.toNat && (direction c == "r" || direction c == "a")

def lastDirection (label : List Char) : String :=
  match label.reverse.dropWhile (direction · == "m") with
  | [] => ""
  | c :: _ => direction c

/-- A label starts with a letter and ends with a letter or a digit of the same direction. One that is
written to the right holds nothing written to the left, and the other way round; digits are of one
kind. -/
def directionsAgree (label : List Char) : Bool :=
  let holds := fun d => label.any (direction · == d)
  match label with
  | [] => true
  | c :: _ =>
    if direction c == "r" then
      !holds "l" && ["r", "e", "a"].contains (lastDirection label) && !(holds "e" && holds "a")
    else if direction c == "l" then
      !holds "r" && !holds "a" && ["l", "e"].contains (lastDirection label)
    else false

end Relay.Url.Idna
