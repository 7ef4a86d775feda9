import Relay.Text.Runs

/-!
Marks: characters that combine with the one before them, and so start no text.
-/

namespace Relay

/-- Runs of marks, `m`, and of all others, `n`. -/
def marks : Runs :=
  Runs.ofLines [
    "0:n 300:m 371:n 483:m 48B:n 591:m 5BE:n 5BF:m 5C0:n 5C1:m 5C3:n 5C4:m 5C6:n 5C7:m 5D0:n",
    "610:m 61B:n 64B:m 660:n 670:m 671:n 6D6:m 6DE:n 6DF:m 6E5:n 6E7:m 6E9:n 6EA:m 6EE:n 711:m",
    "712:n 730:m 74D:n 7A6:m 7B1:n 7EB:m 7F4:n 7FD:m 7FE:n 816:m 81A:n 81B:m 824:n 825:m 828:n",
    "829:m 830:n 859:m 85E:n 897:m 8A0:n 8CA:m 904:n 93A:m 93D:n 93E:m 950:n 951:m 960:n 962:m",
    "964:n 981:m 985:n 9BC:m 9BD:n 9BE:m 9CE:n 9D7:m 9E0:n 9E2:m 9E6:n 9FE:m A05:n A3C:m A5C:n",
    "A70:m A72:n A75:m A76:n A81:m A85:n ABC:m ABD:n ABE:m AD0:n AE2:m AE6:n AFA:m B05:n B3C:m",
    "B3D:n B3E:m B5F:n B62:m B66:n B82:m B83:n BBE:m BD0:n BD7:m BE6:n C00:m C05:n C3C:m C3D:n",
    "C3E:m C58:n C62:m C66:n C81:m C84:n CBC:m CBD:n CBE:m CDC:n CE2:m CE6:n CF3:m D04:n D3B:m",
    "D3D:n D3E:m D4E:n D57:m D58:n D62:m D66:n D81:m D85:n DCA:m DE6:n DF2:m DF4:n E31:m E32:n",
    "E34:m E3F:n E47:m E4F:n EB1:m EB2:n EB4:m EBD:n EC8:m ED0:n F18:m F1A:n F35:m F36:n F37:m",
    "F38:n F39:m F3A:n F3E:m F40:n F71:m F85:n F86:m F88:n F8D:m FBE:n FC6:m FC7:n 102B:m 103F:n",
    "1056:m 105A:n 105E:m 1061:n 1062:m 1065:n 1067:m 106E:n 1071:m 1075:n 1082:m 108E:n 108F:m",
    "1090:n 109A:m 109E:n 135D:m 1360:n 1712:m 171F:n 1732:m 1735:n 1752:m 1760:n 1772:m 1780:n",
    "17B6:m 17D4:n 17DD:m 17E0:n 1885:m 1887:n 18A9:m 18AA:n 1920:m 1940:n 1A17:m 1A1E:n 1A55:m",
    "1A80:n 1AB0:m 1B05:n 1B34:m 1B45:n 1B6B:m 1B74:n 1B80:m 1B83:n 1BA1:m 1BAE:n 1BE6:m 1BFC:n",
    "1C24:m 1C3B:n 1CD0:m 1CD3:n 1CD4:m 1CE9:n 1CED:m 1CEE:n 1CF4:m 1CF5:n 1CF7:m 1CFA:n 1DC0:m",
    "1E01:n 20D0:m 2104:n 2CEF:m 2CF3:n 2D7F:m 2D80:n 2DE0:m 2E00:n 302A:m 3030:n 3099:m 309D:n",
    "A66F:m A673:n A674:m A67E:n A69E:m A6A0:n A6F0:m A6F2:n A802:m A803:n A806:m A807:n A80B:m",
    "A80C:n A823:m A828:n A82C:m A830:n A880:m A882:n A8B4:m A8CE:n A8E0:m A8F2:n A8FF:m A900:n",
    "A926:m A92E:n A947:m A95F:n A980:m A984:n A9B3:m A9C1:n A9E5:m A9E6:n AA29:m AA40:n AA43:m",
    "AA44:n AA4C:m AA50:n AA7B:m AA7E:n AAB0:m AAB1:n AAB2:m AAB5:n AAB7:m AAB9:n AABE:m AAC0:n",
    "AAC1:m AAC2:n AAEB:m AAF0:n AAF5:m AB01:n ABE3:m ABEB:n ABEC:m ABF0:n FB1E:m FBB2:n FE20:m",
    "FE45:n 101FD:m 10280:n 102E0:m 102E1:n 10376:m 10380:n 10A01:m 10A10:n 10A38:m 10A40:n",
    "10AE5:m 10AEB:n 10D24:m 10D30:n 10D69:m 10D6E:n 10EAB:m 10EAD:n 10EFA:m 10F00:n 10F46:m",
    "10F51:n 10F82:m 10F86:n 11000:m 11003:n 11038:m 11047:n 11070:m 11071:n 11073:m 11075:n",
    "1107F:m 11083:n 110B0:m 110BB:n 110C2:m 110D0:n 11100:m 11103:n 11127:m 11136:n 11145:m",
    "11147:n 11173:m 11174:n 11180:m 11183:n 111B3:m 111C1:n 111C9:m 111CD:n 111CE:m 111D0:n",
    "1122C:m 11238:n 1123E:m 1123F:n 11241:m 11280:n 112DF:m 112F0:n 11300:m 11305:n 1133B:m",
    "1133D:n 1133E:m 11350:n 11357:m 1135D:n 11362:m 11380:n 113B8:m 113D1:n 113D2:m 113D3:n",
    "113E1:m 11400:n 11435:m 11447:n 1145E:m 1145F:n 114B0:m 114C4:n 115AF:m 115C1:n 115DC:m",
    "11600:n 11630:m 11641:n 116AB:m 116B8:n 1171D:m 11730:n 1182C:m 1183B:n 11930:m 1193F:n",
    "11940:m 11941:n 11942:m 11944:n 119D1:m 119E1:n 119E4:m 11A00:n 11A01:m 11A0B:n 11A33:m",
    "11A3A:n 11A3B:m 11A3F:n 11A47:m 11A50:n 11A51:m 11A5C:n 11A8A:m 11A9A:n 11B60:m 11BC0:n",
    "11C2F:m 11C40:n 11C92:m 11D00:n 11D31:m 11D46:n 11D47:m 11D50:n 11D8A:m 11D98:n 11EF3:m",
    "11EF7:n 11F00:m 11F02:n 11F03:m 11F04:n 11F34:m 11F43:n 11F5A:m 11FB0:n 13440:m 13441:n",
    "13447:m 13460:n 1611E:m 16130:n 16AF0:m 16AF5:n 16B30:m 16B37:n 16F4F:m 16F50:n 16F51:m",
    "16F93:n 16FE4:m 16FF2:n 1BC9D:m 1BC9F:n 1CF00:m 1CF50:n 1D165:m 1D16A:n 1D16D:m 1D183:n",
    "1D185:m 1D18C:n 1D1AA:m 1D1AE:n 1D242:m 1D245:n 1DA00:m 1DA37:n 1DA3B:m 1DA6D:n 1DA75:m",
    "1DA76:n 1DA84:m 1DA85:n 1DA9B:m 1DF00:n 1E000:m 1E100:n 1E130:m 1E137:n 1E2AE:m 1E2C0:n",
    "1E2EC:m 1E2F0:n 1E4EC:m 1E4F0:n 1E5EE:m 1E5F0:n 1E6E3:m 1E6E4:n 1E6E6:m 1E6E7:n 1E6EE:m",
    "1E6F0:n 1E6F5:m 1E6FE:n 1E8D0:m 1E922:n 1E944:m 1E94B:n"
  ]

def isMark (c : Char) : Bool := marks.value c == "m"

end Relay
