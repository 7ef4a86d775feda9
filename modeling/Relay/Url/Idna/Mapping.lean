import Relay.Text.Runs

/-!
What becomes of a character outside ASCII in a host name: it stays, it vanishes, it is replaced (a
capital by its small letter, a compatibility form by the plain one), or no name may hold it.
-/

namespace Relay.Url.Idna

inductive Mapping
  | keep
  | dropped
  | replaced (text : List Char)
  | disallowed
deriving DecidableEq

structure Shift where
  first : Nat
  last : Nat
  target : Nat

def shifts (lines : List String) : List Shift :=
  lines.flatMap fun line => (line.splitOn " ").map fun word =>
    let (_, target) := Runs.entry word
    let bounds := word.toList.takeWhile (· ≠ ':')
    let first := bounds.takeWhile (· ≠ '-')
    ⟨Runs.hexNumber first, Runs.hexNumber (bounds.drop (first.length + 1)), Runs.hexNumber target.toList⟩

/-- Every code point of the run is replaced, each by the next one in turn. -/
def steadyShifts : List Shift :=
  shifts [
    "C0-D6:E0 D8-DE:F8 391-3A1:3B1 3A3-3AB:3C3 400-40F:450 410-42F:430 531-556:561 10A0-10C5:2D00",
    "13F8-13FD:13F0 1C90-1CBA:10D0 1D33-1D3A:67 1DAE-1DB1:272 1F08-1F0F:1F00 1F18-1F1D:1F10",
    "1F28-1F2F:1F20 1F38-1F3F:1F30 1F48-1F4D:1F40 1F68-1F6F:1F60 2074-2079:34 2080-2089:30",
    "2096-2099:6B 2460-2468:31 24B6-24CF:61 24D0-24E9:61 2C00-2C2F:2C30 313A-313F:11B0",
    "3145-314E:1109 314F-3163:1161 3178-317C:112B 3269-326D:110E 32E4-32E9:30CA 32EE-32F2:30DE",
    "32F5-32FA:30E8 32FB-32FE:30EF AB70-ABBF:13A0 FE41-FE44:300C FF06-FF0E:26 FF10-FF19:30",
    "FF21-FF3A:61 FF3F-FF5B:5F FF85-FF8A:30CA FF8F-FF93:30DE FF96-FF9B:30E8 FFAA-FFAF:11B0",
    "FFB5-FFBE:1109 FFC2-FFC7:1161 FFCA-FFCF:1167 FFD2-FFD7:116D FFE9-FFEC:2190 10400-10427:10428",
    "104B0-104D3:104D8 10570-1057A:10597 1057C-1058A:105A3 1058C-10592:105B3 10C80-10CB2:10CC0",
    "10D50-10D65:10D70 118A0-118BF:118C0 16E40-16E5F:16E60 16EA0-16EB8:16EBB 1CCD6-1CCEF:61",
    "1CCF0-1CCF9:30 1D400-1D419:61 1D41A-1D433:61 1D434-1D44D:61 1D44E-1D454:61 1D456-1D467:69",
    "1D468-1D481:61 1D482-1D49B:61 1D4A9-1D4AC:6E 1D4AE-1D4B5:73 1D4B6-1D4B9:61 1D4BD-1D4C3:68",
    "1D4C5-1D4CF:70 1D4D0-1D4E9:61 1D4EA-1D503:61 1D507-1D50A:64 1D50D-1D514:6A 1D516-1D51C:73",
    "1D51E-1D537:61 1D53B-1D53E:64 1D540-1D544:69 1D54A-1D550:73 1D552-1D56B:61 1D56C-1D585:61",
    "1D586-1D59F:61 1D5A0-1D5B9:61 1D5BA-1D5D3:61 1D5D4-1D5ED:61 1D5EE-1D607:61 1D608-1D621:61",
    "1D622-1D63B:61 1D63C-1D655:61 1D656-1D66F:61 1D670-1D689:61 1D68A-1D6A3:61 1D6A8-1D6B8:3B1",
    "1D6BA-1D6C0:3C3 1D6C2-1D6D2:3B1 1D6D4-1D6DA:3C3 1D6E2-1D6F2:3B1 1D6F4-1D6FA:3C3",
    "1D6FC-1D70C:3B1 1D70E-1D714:3C3 1D71C-1D72C:3B1 1D72E-1D734:3C3 1D736-1D746:3B1",
    "1D748-1D74E:3C3 1D756-1D766:3B1 1D768-1D76E:3C3 1D770-1D780:3B1 1D782-1D788:3C3",
    "1D790-1D7A0:3B1 1D7A2-1D7A8:3C3 1D7AA-1D7BA:3B1 1D7BC-1D7C2:3C3 1D7CE-1D7D7:30",
    "1D7D8-1D7E1:30 1D7E2-1D7EB:30 1D7EC-1D7F5:30 1D7F6-1D7FF:30 1E030-1E038:430 1E03C-1E046:43E",
    "1E051-1E059:430 1E05F-1E064:443 1E900-1E921:1E922 1EE0A-1EE0D:643 1EE2A-1EE2D:643",
    "1F130-1F149:61 1FBF0-1FBF9:30"
  ]

/-- Every second code point of the run is replaced by a neighbour of the same distance. -/
def alternatingShifts : List Shift :=
  shifts [
    "100-12E:101 139-13D:13A 141-147:142 14A-176:14B 179-17D:17A 1A0-1A4:1A1 1CD-1DB:1CE",
    "1DE-1EE:1DF 1F8-21E:1F9 222-232:223 246-24E:247 3D8-3EE:3D9 460-480:461 48A-4BE:48B",
    "4C1-4CD:4C2 4D0-52E:4D1 1E00-1E94:1E01 1EA0-1EFE:1EA1 1F59-1F5F:1F51 2C67-2C6B:2C68",
    "2C80-2CE2:2C81 A640-A66C:A641 A680-A69A:A681 A722-A72E:A723 A732-A76E:A733 A77E-A786:A77F",
    "A796-A7A8:A797 A7B4-A7C2:A7B5 A7CC-A7DA:A7CD"
  ]

def shifted? (n : Nat) : Option Char :=
  let within := fun (s : Shift) => s.first ≤ n && n ≤ s.last
  let moved := fun (s : Shift) => Char.ofNat (s.target + (n - s.first))
  ((steadyShifts.find? within).map moved).or
    ((alternatingShifts.find? fun s => within s && (n - s.first) % 2 == 0).map moved)

/-- The texts that replace consecutive code points, with bars between them. -/
def replacements : Runs :=
  Runs.ofLines [
    "AA:a B2:2|3 B5:μ B9:1|o BC:1⁄4|1⁄2|3⁄4 130:i̇ 132:ij|ij|ĵ 136:ķ 13F:l·|l· 149:ʼn 178:ÿ 17F:s",
    "181:ɓ|ƃ 184:ƅ 186:ɔ|ƈ 189:ɖ|ɗ|ƌ 18E:ǝ|ə|ɛ|ƒ 193:ɠ|ɣ 196:ɩ|ɨ|ƙ 19C:ɯ|ɲ 19F:ɵ 1A6:ʀ|ƨ 1A9:ʃ",
    "1AC:ƭ 1AE:ʈ|ư 1B1:ʊ|ʋ|ƴ 1B5:ƶ 1B7:ʒ|ƹ 1BC:ƽ 1C4:dž|dž|dž|lj|lj|lj|nj|nj|nj 1F1:dz|dz|dz|ǵ",
    "1F6:ƕ|ƿ 220:ƞ 23A:ⱥ|ȼ 23D:ƚ|ⱦ 241:ɂ 243:ƀ|ʉ|ʌ 2B0:h|ɦ|j|r|ɹ|ɻ|ʁ|w|y 2E0:ɣ|l|s|x|ʕ 340:̀|́",
    "343:̓|̈́|ι 370:ͱ 372:ͳ 374:ʹ 376:ͷ 37E:;|ϳ 386:ά|·|έ|ή|ί 38C:ό 38E:ύ|ώ 3CF:ϗ|β|θ|υ|ύ|ϋ|φ|π",
    "3F0:κ|ρ|σ 3F4:θ|ε 3F7:ϸ 3F9:σ|ϻ 3FD:ͻ|ͼ|ͽ 4C0:ӏ 587:եւ 675:اٴ|وٴ|ۇٴ|يٴ",
    "958:क़|ख़|ग़|ज़|ड़|ढ़|फ़|य़ 9DC:ড়|ঢ় 9DF:য় A33:ਲ਼ A36:ਸ਼ A59:ਖ਼|ਗ਼|ਜ਼ A5E:ਫ਼ B5C:ଡ଼|ଢ଼",
    "E33:ํา EB3:ໍາ EDC:ຫນ|ຫມ F0C:་ F43:གྷ F4D:ཌྷ F52:དྷ F57:བྷ F5C:ཛྷ F69:ཀྵ F73:ཱི",
    "F75:ཱུ|ྲྀ|ྲཱྀ|ླྀ|ླཱྀ F81:ཱྀ F93:ྒྷ F9D:ྜྷ FA2:ྡྷ FA7:ྦྷ FAC:ྫྷ FB9:ྐྵ 10C7:ⴧ 10CD:ⴭ 10FC:ნ",
    "1C80:в|д|о|с|т|т|ъ|ѣ|ꙋ|ᲊ 1CBD:ჽ|ჾ|ჿ 1D2C:a|æ|b 1D30:d|e|ǝ",
    "1D3C:o|ȣ|p|r|t|u|w|a|ɐ|ɑ|ᴂ|b|d|e|ə|ɛ|ɜ|g",
    "1D4F:k|m|ŋ|o|ɔ|ᴖ|ᴗ|p|t|u|ᴝ|ɯ|v|ᴥ|β|γ|δ|φ|χ|i|r|u|v|β|γ|ρ|φ|χ 1D78:н",
    "1D9B:ɒ|c|ɕ|ð|ɜ|f|ɟ|ɡ|ɥ|ɨ|ɩ|ɪ|ᵻ|ʝ|ɭ|ᶅ|ʟ|ɱ|ɰ 1DB2:ɸ|ʂ|ʃ|ƫ|ʉ|ʊ|ᴜ|ʋ|ʌ|z|ʐ|ʑ|ʒ|θ 1E9A:aʾ|ṡ 1E9E:ß",
    "1F71:ά 1F73:έ 1F75:ή 1F77:ί 1F79:ό 1F7B:ύ 1F7D:ώ",
    "1F80:ἀι|ἁι|ἂι|ἃι|ἄι|ἅι|ἆι|ἇι|ἀι|ἁι|ἂι|ἃι|ἄι|ἅι|ἆι|ἇι|ἠι|ἡι|ἢι|ἣι|ἤι|ἥι|ἦι",
    "1F97:ἧι|ἠι|ἡι|ἢι|ἣι|ἤι|ἥι|ἦι|ἧι|ὠι|ὡι|ὢι|ὣι|ὤι|ὥι|ὦι|ὧι|ὠι|ὡι|ὢι|ὣι|ὤι|ὥι 1FAE:ὦι|ὧι",
    "1FB2:ὰι|αι|άι 1FB7:ᾶι|ᾰ|ᾱ|ὰ|ά|αι 1FBE:ι 1FC2:ὴι|ηι|ήι 1FC7:ῆι|ὲ|έ|ὴ|ή|ηι 1FD3:ΐ 1FD8:ῐ|ῑ|ὶ|ί",
    "1FE3:ΰ 1FE8:ῠ|ῡ|ὺ|ύ|ῥ 1FEF:` 1FF2:ὼι|ωι|ώι 1FF7:ῶι|ὸ|ό|ὼ|ώ|ωι 2011:‐ 2033:′′|′′′ 2036:‵‵|‵‵‵",
    "203C:!! 2057:′′′′ 2070:0|i 207A:+|−|=|(|)|n 208A:+|−|=|(|) 2090:a|e|o|x|ə|h 209A:p|s|t",
    "20A8:rs 2102:c|°c 2107:ɛ 2109:°f|g|h|h|h|h|ħ|i|i|l|l 2115:n|no 2119:p|q|r|r|r 2120:sm|tel|tm",
    "2124:z 2126:ω 2128:z 212A:k|å|b|c 212F:e|e|f|ⅎ|m|o 2139:i 213B:fax|π|γ|γ|π|∑ 2145:d|d|e|i|j",
    "2150:1⁄7|1⁄9|1⁄10|1⁄3|2⁄3|1⁄5|2⁄5|3⁄5|4⁄5|1⁄6|5⁄6|1⁄8|3⁄8|5⁄8|7⁄8|1⁄|i|ii",
    "2162:iii|iv|v|vi|vii|viii|ix|x|xi|xii|l|c|d|m|i|ii|iii|iv|v|vi|vii|viii|ix",
    "2179:x|xi|xii|l|c|d|m 2183:ↄ 2189:0⁄3 222C:∫∫|∫∫∫ 222F:∮∮|∮∮∮ 2329:〈|〉",
    "2469:10|11|12|13|14|15|16|17|18|19|20|(1)|(2)|(3)|(4)|(5)|(6)|(7)|(8)|(9)",
    "247D:(10)|(11)|(12)|(13)|(14)|(15)|(16)|(17)|(18)|(19)|(20)",
    "249C:(a)|(b)|(c)|(d)|(e)|(f)|(g)|(h)|(i)|(j)|(k)|(l)|(m)|(n)|(o)|(p)|(q)",
    "24AD:(r)|(s)|(t)|(u)|(v)|(w)|(x)|(y)|(z) 24EA:0 2A0C:∫∫∫∫ 2A75:==|=== 2ADC:⫝̸ 2C60:ⱡ",
    "2C62:ɫ|ᵽ|ɽ 2C6D:ɑ|ɱ|ɐ|ɒ 2C72:ⱳ 2C75:ⱶ 2C7C:j|v|ȿ|ɀ 2CEB:ⳬ 2CED:ⳮ 2CF2:ⳳ 2D6F:ⵡ 2E9F:母 2EF3:龟",
    "2F00:一|丨|丶|丿|乙|亅|二|亠|人|儿|入|八|冂|冖|冫|几|凵|刀|力|勹|匕|匚|匸|十|卜|卩|厂|厶|又|口|囗|土|士|夂|夊",
    "2F23:夕|大|女|子|宀|寸|小|尢|尸|屮|山|巛|工|己|巾|干|幺|广|廴|廾|弋|弓|彐|彡|彳|心|戈|戶|手|支|攴|文|斗|斤|方",
    "2F46:无|日|曰|月|木|欠|止|歹|殳|毋|比|毛|氏|气|水|火|爪|父|爻|爿|片|牙|牛|犬|玄|玉|瓜|瓦|甘|生|用|田|疋|疒|癶",
    "2F69:白|皮|皿|目|矛|矢|石|示|禸|禾|穴|立|竹|米|糸|缶|网|羊|羽|老|而|耒|耳|聿|肉|臣|自|至|臼|舌|舛|舟|艮|色|艸",
    "2F8C:虍|虫|血|行|衣|襾|見|角|言|谷|豆|豕|豸|貝|赤|走|足|身|車|辛|辰|辵|邑|酉|釆|里|金|長|門|阜|隶|隹|雨|靑|非",
    "2FAF:面|革|韋|韭|音|頁|風|飛|食|首|香|馬|骨|高|髟|鬥|鬯|鬲|鬼|魚|鳥|鹵|鹿|麥|麻|黃|黍|黑|黹|黽|鼎|鼓|鼠|鼻|齊 2FD2:齒|龍|龜|龠",
    "3002:. 3036:〒 3038:十|卄|卅 309F:より 30FF:コト 3131:ᄀ|ᄁ|ᆪ|ᄂ|ᆬ|ᆭ|ᄃ|ᄄ|ᄅ 3140:ᄚ|ᄆ|ᄇ|ᄈ|ᄡ",
    "3165:ᄔ|ᄕ|ᇇ|ᇈ|ᇌ|ᇎ|ᇓ|ᇗ|ᇙ|ᄜ|ᇝ|ᇟ|ᄝ|ᄞ|ᄠ|ᄢ|ᄣ|ᄧ|ᄩ 317D:ᄲ|ᄶ|ᅀ|ᅇ|ᅌ|ᇱ|ᇲ|ᅗ|ᅘ|ᅙ|ᆄ|ᆅ|ᆈ|ᆑ|ᆒ|ᆔ|ᆞ|ᆡ",
    "3192:一|二|三|四|上|中|下|甲|乙|丙|丁|天|地|人",
    "3200:(ᄀ)|(ᄂ)|(ᄃ)|(ᄅ)|(ᄆ)|(ᄇ)|(ᄉ)|(ᄋ)|(ᄌ)|(ᄎ)|(ᄏ)|(ᄐ)|(ᄑ)|(ᄒ)|(가)|(나)|(다)",
    "3211:(라)|(마)|(바)|(사)|(아)|(자)|(차)|(카)|(타)|(파)|(하)|(주)|(오전)|(오후)",
    "3220:(一)|(二)|(三)|(四)|(五)|(六)|(七)|(八)|(九)|(十)|(月)|(火)|(水)|(木)|(金)|(土)|(日)",
    "3231:(株)|(有)|(社)|(名)|(特)|(財)|(祝)|(労)|(代)|(呼)|(学)|(監)|(企)|(資)|(協)|(祭)|(休)",
    "3242:(自)|(至)|問|幼|文|箏 3250:pte|21|22|23|24|25|26|27|28|29|30|31|32|33|34|35|ᄀ|ᄂ|ᄃ|ᄅ|ᄆ|ᄇ|ᄉ|ᄋ|ᄌ",
    "326E:가|나|다|라|마|바|사|아|자|차|카|타|파|하|참고|주의|우",
    "3280:一|二|三|四|五|六|七|八|九|十|月|火|水|木|金|土|日|株|有|社|名|特|財|祝|労|秘|男|女|適|優|印|注|項|休|写",
    "32A3:正|上|中|下|左|右|医|宗|学|監|企|資|協|夜|36|37|38|39|40|41|42|43|44|45|46|47|48|49",
    "32BF:50|1月|2月|3月|4月|5月|6月|7月|8月|9月|10月|11月|12月|hg|erg|ev|ltd|ア|イ|ウ|エ|オ|カ|キ",
    "32D7:ク|ケ|コ|サ|シ|ス|セ|ソ|タ|チ|ツ|テ|ト 32EA:ヒ|フ|ヘ|ホ 32F3:ヤ|ユ",
    "32FF:令和|アパート|アルファ|アンペア|アール|イニング|インチ|ウォン|エスクード|エーカー|オンス|オーム|カイリ|カラット|カロリー",
    "330E:ガロン|ガンマ|ギガ|ギニー|キュリー|ギルダー|キロ|キログラム|キロメートル|キロワット|グラム|グラムトン|クルゼイロ|クローネ",
    "331C:ケース|コルナ|コーポ|サイクル|サンチーム|シリング|センチ|セント|ダース|デシ|ドル|トン|ナノ|ノット|ハイツ|パーセント|パーツ",
    "332D:バーレル|ピアストル|ピクル|ピコ|ビル|ファラッド|フィート|ブッシェル|フラン|ヘクタール|ペソ|ペニヒ|ヘルツ|ペンス|ページ|ベータ",
    "333D:ポイント|ボルト|ホン|ポンド|ホール|ホーン|マイクロ|マイル|マッハ|マルク|マンション|ミクロン|ミリ|ミリバール|メガ|メガトン",
    "334D:メートル|ヤード|ヤール|ユアン|リットル|リラ|ルピー|ルーブル|レム|レントゲン|ワット|0点|1点|2点|3点|4点|5点|6点|7点",
    "3360:8点|9点|10点|11点|12点|13点|14点|15点|16点|17点|18点|19点|20点|21点|22点|23点|24点|hpa",
    "3372:da|au|bar|ov|pc|dm|dm2|dm3|iu|平成|昭和|大正|明治|株式会社|pa|na|μa|ma|ka|kb|mb|gb",
    "3388:cal|kcal|pf|nf|μf|μg|mg|kg|hz|khz|mhz|ghz|thz|μl|ml|dl|kl|fm|nm|μm|mm",
    "339D:cm|km|mm2|cm2|m2|km2|mm3|cm3|m3|km3|m∕s|m∕s2|pa|kpa|mpa|gpa|rad|rad∕s",
    "33AF:rad∕s2|ps|ns|μs|ms|pv|nv|μv|mv|kv|mv|pw|nw|μw|mw|kw|mw|kω|mω 33C3:bq|cc|cd|c∕kg",
    "33C8:db|gy|ha|hp|in|kk|km|kt|lm|ln|log|lx|mb|mil|mol|ph",
    "33D9:ppm|pr|sr|sv|wb|v∕m|a∕m|1日|2日|3日|4日|5日|6日|7日|8日|9日|10日|11日|12日|13日|14日",
    "33EE:15日|16日|17日|18日|19日|20日|21日|22日|23日|24日|25日|26日|27日|28日|29日|30日|31日 33FF:gal A69C:ъ|ь",
    "A770:ꝯ A779:ꝺ A77B:ꝼ A77D:ᵹ A78B:ꞌ A78D:ɥ A790:ꞑ A792:ꞓ A7AA:ɦ|ɜ|ɡ|ɬ|ɪ A7B0:ʞ|ʇ|ʝ|ꭓ",
    "A7C4:ꞔ|ʂ|ᶎ|ꟈ A7C9:ꟊ A7CB:ɤ A7DC:ƛ A7F1:s|c|f|q|ꟶ A7F8:ħ|œ AB5C:ꜧ|ꬷ|ɫ|ꭒ AB69:ʍ",
    "F900:豈|更|車|賈|滑|串|句|龜|龜|契|金|喇|奈|懶|癩|羅|蘿|螺|裸|邏|樂|洛|烙|珞|落|酪|駱|亂|卵|欄|爛|蘭|鸞|嵐|濫",
    "F923:藍|襤|拉|臘|蠟|廊|朗|浪|狼|郎|來|冷|勞|擄|櫓|爐|盧|老|蘆|虜|路|露|魯|鷺|碌|祿|綠|菉|錄|鹿|論|壟|弄|籠|聾",
    "F946:牢|磊|賂|雷|壘|屢|樓|淚|漏|累|縷|陋|勒|肋|凜|凌|稜|綾|菱|陵|讀|拏|樂|諾|丹|寧|怒|率|異|北|磻|便|復|不|泌",
    "F969:數|索|參|塞|省|葉|說|殺|辰|沈|拾|若|掠|略|亮|兩|凉|梁|糧|良|諒|量|勵|呂|女|廬|旅|濾|礪|閭|驪|麗|黎|力|曆",
    "F98C:歷|轢|年|憐|戀|撚|漣|煉|璉|秊|練|聯|輦|蓮|連|鍊|列|劣|咽|烈|裂|說|廉|念|捻|殮|簾|獵|令|囹|寧|嶺|怜|玲|瑩",
    "F9AF:羚|聆|鈴|零|靈|領|例|禮|醴|隸|惡|了|僚|寮|尿|料|樂|燎|療|蓼|遼|龍|暈|阮|劉|杻|柳|流|溜|琉|留|硫|紐|類|六",
    "F9D2:戮|陸|倫|崙|淪|輪|律|慄|栗|率|隆|利|吏|履|易|李|梨|泥|理|痢|罹|裏|裡|里|離|匿|溺|吝|燐|璘|藺|隣|鱗|麟|林",
    "F9F5:淋|臨|立|笠|粒|狀|炙|識|什|茶|刺|切|度|拓|糖|宅|洞|暴|輻|行|降|見|廓|兀|嗀 FA10:塚 FA12:晴",
    "FA15:凞|猪|益|礼|神|祥|福|靖|精|羽 FA20:蘒 FA22:諸 FA25:逸|都",
    "FA2A:飯|飼|館|鶴|郞|隷|侮|僧|免|勉|勤|卑|喝|嘆|器|塀|墨|層|屮|悔|慨|憎|懲|敏|既|暑|梅|海|渚|漢|煮|爫|琢|碑|社",
    "FA4D:祉|祈|祐|祖|祝|禍|禎|穀|突|節|練|縉|繁|署|者|臭|艹|艹|著|褐|視|謁|謹|賓|贈|辶|逸|難|響|頻|恵|𤋮|舘",
    "FA70:並|况|全|侀|充|冀|勇|勺|喝|啕|喙|嗢|塚|墳|奄|奔|婢|嬨|廒|廙|彩|徭|惘|慎|愈|憎|慠|懲|戴|揄|搜|摒|敖|晴|朗",
    "FA93:望|杖|歹|殺|流|滛|滋|漢|瀞|煮|瞧|爵|犯|猪|瑱|甆|画|瘝|瘟|益|盛|直|睊|着|磌|窱|節|类|絛|練|缾|者|荒|華|蝹",
    "FAB6:襁|覆|視|調|諸|請|謁|諾|諭|謹|變|贈|輸|遲|醙|鉶|陼|難|靖|韛|響|頋|頻|鬒|龜|𢡊|𢡄|𣏕|㮝|䀘|䀹|𥉉|𥳐|𧻓|齃 FAD9:龎",
    "FB00:ff|fi|fl|ffi|ffl|st|st FB13:մն|մե|մի|վն|մխ FB1D:יִ",
    "FB1F:ײַ|ע|א|ד|ה|כ|ל|ם|ר|ת|+|שׁ|שׂ|שּׁ|שּׂ|אַ|אָ|אּ|בּ|גּ|דּ|הּ|וּ|זּ FB38:טּ|יּ|ךּ|כּ|לּ",
    "FB3E:מּ FB40:נּ|סּ FB43:ףּ|פּ",
    "FB46:צּ|קּ|רּ|שּ|תּ|וֹ|בֿ|כֿ|פֿ|אל|ٱ|ٱ|ٻ|ٻ|ٻ|ٻ|پ|پ|پ|پ|ڀ|ڀ|ڀ|ڀ|ٺ|ٺ|ٺ|ٺ|ٿ|ٿ",
    "FB64:ٿ|ٿ|ٹ|ٹ|ٹ|ٹ|ڤ|ڤ|ڤ|ڤ|ڦ|ڦ|ڦ|ڦ|ڄ|ڄ|ڄ|ڄ|ڃ|ڃ|ڃ|ڃ|چ|چ|چ|چ|ڇ|ڇ|ڇ|ڇ|ڍ|ڍ|ڌ|ڌ|ڎ",
    "FB87:ڎ|ڈ|ڈ|ژ|ژ|ڑ|ڑ|ک|ک|ک|ک|گ|گ|گ|گ|ڳ|ڳ|ڳ|ڳ|ڱ|ڱ|ڱ|ڱ|ں|ں|ڻ|ڻ|ڻ|ڻ|ۀ|ۀ|ہ|ہ|ہ|ہ",
    "FBAA:ھ|ھ|ھ|ھ|ے|ے|ۓ|ۓ",
    "FBD3:ڭ|ڭ|ڭ|ڭ|ۇ|ۇ|ۆ|ۆ|ۈ|ۈ|ۇٴ|ۋ|ۋ|ۅ|ۅ|ۉ|ۉ|ې|ې|ې|ې|ى|ى|ئا|ئا|ئە|ئە|ئو|ئو|ئۇ|ئۇ",
    "FBF2:ئۆ|ئۆ|ئۈ|ئۈ|ئې|ئې|ئې|ئى|ئى|ئى|ی|ی|ی|ی|ئج|ئح|ئم|ئى|ئي|بج|بح|بخ|بم|بى|بي",
    "FC0B:تج|تح|تخ|تم|تى|تي|ثج|ثم|ثى|ثي|جح|جم|حج|حم|خج|خح|خم|سج|سح|سخ|سم|صح|صم",
    "FC22:ضج|ضح|ضخ|ضم|طح|طم|ظم|عج|عم|غج|غم|فج|فح|فخ|فم|فى|في|قح|قم|قى|قي|كا|كج",
    "FC39:كح|كخ|كل|كم|كى|كي|لج|لح|لخ|لم|لى|لي|مج|مح|مخ|مم|مى|مي|نج|نح|نخ|نم|نى",
    "FC50:ني|هج|هم|هى|هي|يج|يح|يخ|يم|يى|يي|ذٰ|رٰ|ىٰ",
    "FC64:ئر|ئز|ئم|ئن|ئى|ئي|بر|بز|بم|بن|بى|بي|تر|تز|تم|تن|تى|تي|ثر|ثز|ثم|ثن|ثى",
    "FC7B:ثي|فى|في|قى|قي|كا|كل|كم|كى|كي|لم|لى|لي|ما|مم|نر|نز|نم|نن|نى|ني|ىٰ|ير",
    "FC92:يز|يم|ين|يى|يي|ئج|ئح|ئخ|ئم|ئه|بج|بح|بخ|بم|به|تج|تح|تخ|تم|ته|ثم|جح|جم",
    "FCA9:حج|حم|خج|خم|سج|سح|سخ|سم|صح|صخ|صم|ضج|ضح|ضخ|ضم|طح|ظم|عج|عم|غج|غم|فج|فح",
    "FCC0:فخ|فم|قح|قم|كج|كح|كخ|كل|كم|لج|لح|لخ|لم|له|مج|مح|مخ|مم|نج|نح|نخ|نم|نه",
    "FCD7:هج|هم|هٰ|يج|يح|يخ|يم|يه|ئم|ئه|بم|به|تم|ته|ثم|ثه|سم|سه|شم|شه|كل|كم|لم",
    "FCEE:نم|نه|يم|يه|ـَّ|ـُّ|ـِّ|طى|طي|عى|عي|غى|غي|سى|سي|شى|شي|حى|حي|جى|جي|خى",
    "FD04:خي|صى|صي|ضى|ضي|شج|شح|شخ|شم|شر|سر|صر|ضر|طى|طي|عى|عي|غى|غي|سى|سي|شى|شي",
    "FD1B:حى|حي|جى|جي|خى|خي|صى|صي|ضى|ضي|شج|شح|شخ|شم|شر|سر|صر|ضر|شج|شح|شخ|شم|سه",
    "FD32:شه|طم|سج|سح|سخ|شج|شح|شخ|طم|ظم|اً|اً",
    "FD50:تجم|تحج|تحج|تحم|تخم|تمج|تمح|تمخ|جمح|جمح|حمي|حمى|سحج|سجح|سجى|سمح|سمح",
    "FD61:سمج|سمم|سمم|صحح|صحح|صمم|شحم|شحم|شجي|شمخ|شمخ|شمم|شمم|ضحى|ضخم|ضخم|طمح",
    "FD72:طمح|طمم|طمي|عجم|عمم|عمم|عمى|غمم|غمي|غمى|فخم|فخم|قمح|قمم|لحم|لحي|لحى",
    "FD83:لجج|لجج|لخم|لخم|لمح|لمح|محج|محم|محي|مجح|مجم|مخج|مخم",
    "FD92:مجخ|همج|همم|نحم|نحى|نجم|نجم|نجى|نمي|نمى|يمم|يمم|بخي|تجي|تجى|تخي|تخى",
    "FDA3:تمي|تمى|جمي|جحى|جمى|سخى|صحي|شحي|ضحي|لجي|لمي|يحي|يجي|يمي|ممي|قمي|نحي",
    "FDB4:قمح|لحم|عمي|كمي|نجح|مخي|لجم|كمم|لجم|نجح|جحي|حجي|مجي|فمي|بحي|كمم|عجم FDC5:صمم|سخي|نجي",
    "FDF0:صلے|قلے|الله|اكبر|محمد|صلعم|رسول|عليه|وسلم|صلى FDFC:ریال FE10:,|、 FE14:;|! FE17:〖|〗",
    "FE31:—|–|_|_|(|)|\x7b|\x7d|〔|〕|【|】|《|》|〈|〉 FE4D:_|_|_|,|、 FE54:; FE57:!|—|(|)|\x7b|\x7d|〔|〕",
    "FE60:&|*|+|- FE66:= FE69:$ FE71:ـً FE77:ـَ FE79:ـُ FE7B:ـِ FE7D:ـّ",
    "FE7F:ـْ|ء|آ|آ|أ|أ|ؤ|ؤ|إ|إ|ئ|ئ|ئ|ئ|ا|ا|ب|ب|ب|ب|ة|ة|ت|ت|ت|ت|ث|ث|ث|ث|ج|ج|ج|ج|ح",
    "FEA2:ح|ح|ح|خ|خ|خ|خ|د|د|ذ|ذ|ر|ر|ز|ز|س|س|س|س|ش|ش|ش|ش|ص|ص|ص|ص|ض|ض|ض|ض|ط|ط|ط|ط",
    "FEC5:ظ|ظ|ظ|ظ|ع|ع|ع|ع|غ|غ|غ|غ|ف|ف|ف|ف|ق|ق|ق|ق|ك|ك|ك|ك|ل|ل|ل|ل|م|م|م|م|ن|ن|ن",
    "FEE8:ن|ه|ه|ه|ه|و|و|ى|ى|ي|ي|ي|ي|لآ|لآ|لأ|لأ|لإ|لإ|لا|لا FF01:!|\" FF04:$ FF1B:; FF1D:=",
    "FF5D:\x7d|~|⦅|⦆|.|「|」|、|・|ヲ|ァ|ィ|ゥ|ェ|ォ|ャ|ュ|ョ|ッ|ー|ア|イ|ウ|エ|オ|カ|キ|ク|ケ|コ|サ|シ|ス|セ|ソ FF80:タ|チ|ツ|テ|ト",
    "FF8B:ヒ|フ|ヘ|ホ FF94:ヤ|ユ FF9C:ワ|ン|゙|゚ FFA1:ᄀ|ᄁ|ᆪ|ᄂ|ᆬ|ᆭ|ᄃ|ᄄ|ᄅ FFB0:ᄚ|ᄆ|ᄇ|ᄈ|ᄡ FFDA:ᅳ|ᅴ|ᅵ",
    "FFE0:¢|£|¬ FFE4:¦|¥|₩ FFE8:│ FFED:■|○ 10594:𐖻|𐖼 10781:ː|ˑ|æ|ʙ|ɓ",
    "10787:ʣ|ꭦ|ʥ|ʤ|ɖ|ɗ|ᶑ|ɘ|ɞ|ʩ|ɤ|ɢ|ɠ|ʛ|ħ|ʜ|ɧ|ʄ|ʪ|ʫ|ɬ|𝼄|ꞎ|ɮ|𝼅|ʎ|𝼆|ø|ɶ|ɷ|q|ɺ|𝼈|ɽ|ɾ",
    "107AA:ʀ|ʨ|ʦ|ꭧ|ʧ|ʈ|ⱱ 107B2:ʏ|ʡ|ʢ|ʘ|ǀ|ǁ|ǂ|𝼊|𝼞 1D15E:𝅗𝅥|𝅘𝅥|𝅘𝅥𝅮|𝅘𝅥𝅯|𝅘𝅥𝅰|𝅘𝅥𝅱|𝅘𝅥𝅲",
    "1D1BB:𝆹𝅥|𝆺𝅥|𝆹𝅥𝅮|𝆺𝅥𝅮|𝆹𝅥𝅯|𝆺𝅥𝅯 1D49C:a 1D49E:c|d 1D4A2:g 1D4A5:j|k 1D4BB:f 1D504:a|b 1D538:a|b",
    "1D546:o 1D6A4:ı|ȷ 1D6B9:θ 1D6C1:∇ 1D6D3:σ 1D6DB:∂|ε|θ|κ|φ|ρ|π 1D6F3:θ 1D6FB:∇ 1D70D:σ",
    "1D715:∂|ε|θ|κ|φ|ρ|π 1D72D:θ 1D735:∇ 1D747:σ 1D74F:∂|ε|θ|κ|φ|ρ|π 1D767:θ 1D76F:∇ 1D781:σ",
    "1D789:∂|ε|θ|κ|φ|ρ|π 1D7A1:θ 1D7A9:∇ 1D7BB:σ 1D7C3:∂|ε|θ|κ|φ|ρ|π|ϝ|ϝ 1E039:к|л|м",
    "1E047:ы|э|ю|ꚉ|ә|і|ј|ө|ү|ӏ 1E05A:к|л|о|п|с 1E065:ъ|ы|ґ|і|ѕ|џ|ҫ|ꙑ|ұ 1EE00:ا|ب|ج|د",
    "1EE05:و|ز|ح|ط|ي 1EE0E:س|ع|ف|ص|ق|ر|ش|ت|ث|خ|ذ|ض|ظ|غ|ٮ|ں|ڡ|ٯ 1EE21:ب|ج 1EE24:ه 1EE27:ح 1EE29:ي",
    "1EE2E:س|ع|ف|ص|ق 1EE34:ش|ت|ث|خ 1EE39:ض 1EE3B:غ 1EE42:ج 1EE47:ح 1EE49:ي 1EE4B:ل 1EE4D:ن|س|ع",
    "1EE51:ص|ق 1EE54:ش 1EE57:خ 1EE59:ض 1EE5B:غ 1EE5D:ں 1EE5F:ٯ 1EE61:ب|ج 1EE64:ه 1EE67:ح|ط|ي|ك",
    "1EE6C:م|ن|س|ع|ف|ص|ق 1EE74:ش|ت|ث|خ 1EE79:ض|ظ|غ|ٮ 1EE7E:ڡ 1EE80:ا|ب|ج|د|ه|و|ز|ح|ط|ي",
    "1EE8B:ل|م|ن|س|ع|ف|ص|ق|ر|ش|ت|ث|خ|ذ|ض|ظ|غ 1EEA1:ب|ج|د 1EEA5:و|ز|ح|ط|ي",
    "1EEAB:ل|م|ن|س|ع|ف|ص|ق|ر|ش|ت|ث|خ|ذ|ض|ظ|غ 1F101:0,|1,|2,|3,|4,|5,|6,|7,|8,|9,",
    "1F110:(a)|(b)|(c)|(d)|(e)|(f)|(g)|(h)|(i)|(j)|(k)|(l)|(m)|(n)|(o)|(p)|(q)",
    "1F121:(r)|(s)|(t)|(u)|(v)|(w)|(x)|(y)|(z)|〔s〕|c|r|cd|wz 1F14A:hv|mv|sd|ss|ppv|wc",
    "1F16A:mc|md|mr 1F190:dj 1F200:ほか|ココ|サ",
    "1F210:手|字|双|デ|二|多|解|天|交|映|無|料|前|後|再|新|初|終|生|販|声|吹|演|投|捕|一|三|遊|左|中|右|指|走|打|禁",
    "1F233:空|合|満|有|月|申|割|営|配 1F240:〔本〕|〔三〕|〔二〕|〔安〕|〔点〕|〔打〕|〔盗〕|〔勝〕|〔敗〕 1F250:得|可",
    "2F800:丽|丸|乁|𠄢|你|侮|侻|倂|偺|備|僧|像|㒞|𠘺|免|兔|兤|具|𠔜|㒹|內|再|𠕋|冗|冤|仌|冬|况|𩇟|凵|刃|㓟|刻|剆|割",
    "2F823:剷|㔕|勇|勉|勤|勺|包|匆|北|卉|卑|博|即|卽|卿|卿|卿|𠨬|灰|及|叟|𠭣|叫|叱|吆|咞|吸|呈|周|咢|哶|唐|啓|啣|善",
    "2F846:善|喙|喫|喳|嗂|圖|嘆|圗|噑|噴|切|壮|城|埴|堍|型|堲|報|墬|𡓤|売|壷|夆|多|夢|奢|𡚨|𡛪|姬|娛|娧|姘|婦|㛮|㛼",
    "2F869:嬈|嬾|嬾|𡧈|寃|寘|寧|寳|𡬘|寿|将|当|尢|㞁|屠|屮|峀|岍|𡷤|嵃|𡷦|嵮|嵫|嵼|巡|巢|㠯|巽|帨|帽|幩|㡢|𢆃|㡼|庰",
    "2F88C:庳|庶|廊|𪎒|廾|𢌱|𢌱|舁|弢|弢|㣇|𣊸|𦇚|形|彫|㣣|徚|忍|志|忹|悁|㤺|㤜|悔|𢛔|惇|慈|慌|慎|慌|慺|憎|憲|憤|憯",
    "2F8AF:懞|懲|懶|成|戛|扝|抱|拔|捐|𢬌|挽|拼|捨|掃|揤|𢯱|搢|揅|掩|㨮|摩|摾|撝|摷|㩬|敏|敬|𣀊|旣|書|晉|㬙|暑|㬈|㫤",
    "2F8D2:冒|冕|最|暜|肭|䏙|朗|望|朡|杞|杓|𣏃|㭉|柺|枅|桒|梅|𣑭|梎|栟|椔|㮝|楂|榣|槪|檨|𣚣|櫛|㰘|次|𣢧|歔|㱎|歲|殟",
    "2F8F5:殺|殻|𣪍|𡴋|𣫺|汎|𣲼|沿|泍|汧|洖|派|海|流|浩|浸|涅|𣴞|洴|港|湮|㴳|滋|滇|𣻑|淹|潮|𣽞|𣾎|濆|瀹|瀞|瀛|㶖|灊",
    "2F918:災|灷|炭|𠔥|煅|𤉣|熜|𤎫|爨|爵|牐|𤘈|犀|犕|𤜵|𤠔|獺|王|㺬|玥|㺸|㺸|瑇|瑜|瑱|璅|瓊|㼛|甤|𤰶|甾|𤲒|異|𢆟|瘐",
    "2F93B:𤾡|𤾸|𥁄|㿼|䀈|直|𥃳|𥃲|𥄙|𥄳|眞|真|真|睊|䀹|瞋|䁆|䂖|𥐝|硎|碌|磌|䃣|𥘦|祖|𥚚|𥛅|福|秫|䄯|穀|穊|穏|𥥼|𥪧",
    "2F95E:𥪧|竮|䈂|𥮫|篆|築|䈧|𥲀|糒|䊠|糨|糣|紀|𥾆|絣|䌁|緇|縂|繅|䌴|𦈨|𦉇|䍙|𦋙|罺|𦌾|羕|翺|者|𦓚|𦔣|聠|𦖨|聰|𣍟",
    "2F981:䏕|育|脃|䐋|脾|媵|𦞧|𦞵|𣎓|𣎜|舁|舄|辞|䑫|芑|芋|芝|劳|花|芳|芽|苦|𦬼|若|茝|荣|莭|茣|莽|菧|著|荓|菊|菌|菜",
    "2F9A4:𦰶|𦵫|𦳕|䔫|蓱|蓳|蔖|𧏊|蕤|𦼬|䕝|䕡|𦾱|𧃒|䕫|虐|虜|虧|虩|蚩|蚈|蜎|蛢|蝹|蜨|蝫|螆|䗗|蟡|蠁|䗹|衠|衣|𧙧|裗",
    "2F9C7:裞|䘵|裺|㒻|𧢮|𧥦|䚾|䛇|誠|諭|變|豕|𧲨|貫|賁|贛|起|𧼯|𠠄|跋|趼|跰|𠣞|軔|輸|𨗒|𨗭|邔|郱|鄑|𨜮|鄛|鈸|鋗|鋘",
    "2F9EA:鉼|鏹|鐕|𨯺|開|䦕|閷|𨵷|䧦|雃|嶲|霣|𩅅|𩈚|䩮|䩶|韠|𩐊|䪲|𩒖|頋|頋|頩|𩖶|飢|䬳|餩|馧|駂|駾|䯎|𩬰|鬒|鱀|鳽",
    "2FA0D:䳎|䳭|鵧|𪃎|䳸|𪄅|𪈎|𪊑|麻|䵖|黹|黾|鼅|鼏|鼖|鼻|𪘀"
  ]

def replacement? (n : Nat) : Option (List Char) :=
  match (replacements.takeWhile (·.1 ≤ n)).getLast? with
  | none => none
  | some (first, texts) => ((texts.splitOn "|")[n - first]?).map String.toList

/-- What becomes of the others: `v` is valid, `i` vanishes, and `x` is not allowed. -/
def statuses : Runs :=
  Runs.ofLines [
    "80:x A1:v A8:x A9:v AD:i AE:v AF:x B0:v B4:x B6:v B8:x BB:v 2D8:x 2DE:v 34F:i 350:v 378:x",
    "37B:v 380:x 390:v 3A2:x 3AC:v 530:x 559:v 58B:x 58D:v 590:x 591:v 5C8:x 5D0:v 5EB:x 5EF:v",
    "5F5:x 606:v 61C:x 61D:v 6DD:x 6DE:v 70E:x 710:v 74B:x 74D:v 7B2:x 7C0:v 7FB:x 7FD:v 82E:x",
    "830:v 83F:x 840:v 85C:x 85E:v 85F:x 860:v 86B:x 870:v 890:x 897:v 8E2:x 8E3:v 984:x 985:v",
    "98D:x 98F:v 991:x 993:v 9A9:x 9AA:v 9B1:x 9B2:v 9B3:x 9B6:v 9BA:x 9BC:v 9C5:x 9C7:v 9C9:x",
    "9CB:v 9CF:x 9D7:v 9D8:x 9E0:v 9E4:x 9E6:v 9FF:x A01:v A04:x A05:v A0B:x A0F:v A11:x A13:v",
    "A29:x A2A:v A31:x A32:v A34:x A35:v A37:x A38:v A3A:x A3C:v A3D:x A3E:v A43:x A47:v A49:x",
    "A4B:v A4E:x A51:v A52:x A5C:v A5D:x A66:v A77:x A81:v A84:x A85:v A8E:x A8F:v A92:x A93:v",
    "AA9:x AAA:v AB1:x AB2:v AB4:x AB5:v ABA:x ABC:v AC6:x AC7:v ACA:x ACB:v ACE:x AD0:v AD1:x",
    "AE0:v AE4:x AE6:v AF2:x AF9:v B00:x B01:v B04:x B05:v B0D:x B0F:v B11:x B13:v B29:x B2A:v",
    "B31:x B32:v B34:x B35:v B3A:x B3C:v B45:x B47:v B49:x B4B:v B4E:x B55:v B58:x B5F:v B64:x",
    "B66:v B78:x B82:v B84:x B85:v B8B:x B8E:v B91:x B92:v B96:x B99:v B9B:x B9C:v B9D:x B9E:v",
    "BA0:x BA3:v BA5:x BA8:v BAB:x BAE:v BBA:x BBE:v BC3:x BC6:v BC9:x BCA:v BCE:x BD0:v BD1:x",
    "BD7:v BD8:x BE6:v BFB:x C00:v C0D:x C0E:v C11:x C12:v C29:x C2A:v C3A:x C3C:v C45:x C46:v",
    "C49:x C4A:v C4E:x C55:v C57:x C58:v C5B:x C5C:v C5E:x C60:v C64:x C66:v C70:x C77:v C8D:x",
    "C8E:v C91:x C92:v CA9:x CAA:v CB4:x CB5:v CBA:x CBC:v CC5:x CC6:v CC9:x CCA:v CCE:x CD5:v",
    "CD7:x CDC:v CDF:x CE0:v CE4:x CE6:v CF0:x CF1:v CF4:x D00:v D0D:x D0E:v D11:x D12:v D45:x",
    "D46:v D49:x D4A:v D50:x D54:v D64:x D66:v D80:x D81:v D84:x D85:v D97:x D9A:v DB2:x DB3:v",
    "DBC:x DBD:v DBE:x DC0:v DC7:x DCA:v DCB:x DCF:v DD5:x DD6:v DD7:x DD8:v DE0:x DE6:v DF0:x",
    "DF2:v DF5:x E01:v E3B:x E3F:v E5C:x E81:v E83:x E84:v E85:x E86:v E8B:x E8C:v EA4:x EA5:v",
    "EA6:x EA7:v EBE:x EC0:v EC5:x EC6:v EC7:x EC8:v ECF:x ED0:v EDA:x EDE:v EE0:x F00:v F48:x",
    "F49:v F6D:x F71:v F98:x F99:v FBD:x FBE:v FCD:x FCE:v FDB:x 1000:v 10C6:x 10D0:v 115F:x",
    "1161:v 1249:x 124A:v 124E:x 1250:v 1257:x 1258:v 1259:x 125A:v 125E:x 1260:v 1289:x 128A:v",
    "128E:x 1290:v 12B1:x 12B2:v 12B6:x 12B8:v 12BF:x 12C0:v 12C1:x 12C2:v 12C6:x 12C8:v 12D7:x",
    "12D8:v 1311:x 1312:v 1316:x 1318:v 135B:x 135D:v 137D:x 1380:v 139A:x 13A0:v 13F6:x 1400:v",
    "1680:x 1681:v 169D:x 16A0:v 16F9:x 1700:v 1716:x 171F:v 1737:x 1740:v 1754:x 1760:v 176D:x",
    "176E:v 1771:x 1772:v 1774:x 1780:v 17B4:x 17B6:v 17DE:x 17E0:v 17EA:x 17F0:v 17FA:x 1800:v",
    "1806:x 1807:v 180B:i 180E:x 180F:i 1810:v 181A:x 1820:v 1879:x 1880:v 18AB:x 18B0:v 18F6:x",
    "1900:v 191F:x 1920:v 192C:x 1930:v 193C:x 1940:v 1941:x 1944:v 196E:x 1970:v 1975:x 1980:v",
    "19AC:x 19B0:v 19CA:x 19D0:v 19DB:x 19DE:v 1A1C:x 1A1E:v 1A5F:x 1A60:v 1A7D:x 1A7F:v 1A8A:x",
    "1A90:v 1A9A:x 1AA0:v 1AAE:x 1AB0:v 1ADE:x 1AE0:v 1AEC:x 1B00:v 1B4D:x 1B4E:v 1BF4:x 1BFC:v",
    "1C38:x 1C3B:v 1C4A:x 1C4D:v 1C8B:x 1CC0:v 1CC8:x 1CD0:v 1CFB:x 1D00:v 1F16:x 1F20:v 1F46:x",
    "1F50:v 1F58:x 1F60:v 1F7E:x 1FB0:v 1FB5:x 1FB6:v 1FBD:x 1FC6:v 1FCD:x 1FD0:v 1FD4:x 1FD6:v",
    "1FDC:x 1FE0:v 1FED:x 1FF6:v 1FFD:x 200B:i 200C:v 200E:x 2010:v 2017:x 2018:v 2024:x 2027:v",
    "2028:x 2030:v 203E:x 203F:v 2047:x 204A:v 205F:x 2060:i 2061:x 2064:i 2065:x 20A0:v 20C2:x",
    "20D0:v 20F1:x 2104:v 2105:x 2108:v 2135:x 213A:v 218C:x 2190:v 242A:x 2440:v 244B:x 24EB:v",
    "2A74:x 2A77:v 2B74:x 2B76:v 2CF4:x 2CF9:v 2D26:x 2D27:v 2D28:x 2D2D:v 2D2E:x 2D30:v 2D68:x",
    "2D70:v 2D71:x 2D7F:v 2D97:x 2DA0:v 2DA7:x 2DA8:v 2DAF:x 2DB0:v 2DB7:x 2DB8:v 2DBF:x 2DC0:v",
    "2DC7:x 2DC8:v 2DCF:x 2DD0:v 2DD7:x 2DD8:v 2DDF:x 2DE0:v 2E5E:x 2E80:v 2E9A:x 2E9B:v 2EF4:x",
    "2FFC:v 3000:x 3001:v 3040:x 3041:v 3097:x 3099:v 309B:x 309D:v 3100:x 3105:v 3130:x 3190:v",
    "31E6:x 31EF:v 321F:x 3248:v 33C2:x 3400:v A48D:x A490:v A4C7:x A4D0:v A62C:x A641:v A6F8:x",
    "A700:v A7DD:x A7F6:v A82D:x A830:v A83A:x A840:v A878:x A880:v A8C6:x A8CE:v A8DA:x A8E0:v",
    "A954:x A95F:v A97D:x A980:v A9CE:x A9CF:v A9DA:x A9DE:v A9FF:x AA00:v AA37:x AA40:v AA4E:x",
    "AA50:v AA5A:x AA5C:v AAC3:x AADB:v AAF7:x AB01:v AB07:x AB09:v AB0F:x AB11:v AB17:x AB20:v",
    "AB27:x AB28:v AB2F:x AB30:v AB6C:x ABC0:v ABEE:x ABF0:v ABFA:x AC00:v D7A4:x D7B0:v D7C7:x",
    "D7CB:v D7FC:x FA0E:v FA6E:x FB1E:v FB37:x FBB2:v FC5E:x FD3E:v FDD0:x FDFD:v FE00:i FE12:x",
    "FE20:v FE30:x FE45:v FE47:x FE73:v FE74:x FEFF:i FF00:x 10000:v 1000C:x 1000D:v 10027:x",
    "10028:v 1003B:x 1003C:v 1003E:x 1003F:v 1004E:x 10050:v 1005E:x 10080:v 100FB:x 10100:v",
    "10103:x 10107:v 10134:x 10137:v 1018F:x 10190:v 1019D:x 101A0:v 101A1:x 101D0:v 101FE:x",
    "10280:v 1029D:x 102A0:v 102D1:x 102E0:v 102FC:x 10300:v 10324:x 1032D:v 1034B:x 10350:v",
    "1037B:x 10380:v 1039E:x 1039F:v 103C4:x 103C8:v 103D6:x 10428:v 1049E:x 104A0:v 104AA:x",
    "104D8:v 104FC:x 10500:v 10528:x 10530:v 10564:x 1056F:v 1057B:x 10597:v 105A2:x 105A3:v",
    "105B2:x 105B3:v 105BA:x 105BB:v 105BD:x 105C0:v 105F4:x 10600:v 10737:x 10740:v 10756:x",
    "10760:v 10768:x 10780:v 10786:x 10800:v 10806:x 10808:v 10809:x 1080A:v 10836:x 10837:v",
    "10839:x 1083C:v 1083D:x 1083F:v 10856:x 10857:v 1089F:x 108A7:v 108B0:x 108E0:v 108F3:x",
    "108F4:v 108F6:x 108FB:v 1091C:x 1091F:v 1093A:x 1093F:v 1095A:x 10980:v 109B8:x 109BC:v",
    "109D0:x 109D2:v 10A04:x 10A05:v 10A07:x 10A0C:v 10A14:x 10A15:v 10A18:x 10A19:v 10A36:x",
    "10A38:v 10A3B:x 10A3F:v 10A49:x 10A50:v 10A59:x 10A60:v 10AA0:x 10AC0:v 10AE7:x 10AEB:v",
    "10AF7:x 10B00:v 10B36:x 10B39:v 10B56:x 10B58:v 10B73:x 10B78:v 10B92:x 10B99:v 10B9D:x",
    "10BA9:v 10BB0:x 10C00:v 10C49:x 10CC0:v 10CF3:x 10CFA:v 10D28:x 10D30:v 10D3A:x 10D40:v",
    "10D66:x 10D69:v 10D86:x 10D8E:v 10D90:x 10E60:v 10E7F:x 10E80:v 10EAA:x 10EAB:v 10EAE:x",
    "10EB0:v 10EB2:x 10EC2:v 10EC8:x 10ED0:v 10ED9:x 10EFA:v 10F28:x 10F30:v 10F5A:x 10F70:v",
    "10F8A:x 10FB0:v 10FCC:x 10FE0:v 10FF7:x 11000:v 1104E:x 11052:v 11076:x 1107F:v 110BD:x",
    "110BE:v 110C3:x 110D0:v 110E9:x 110F0:v 110FA:x 11100:v 11135:x 11136:v 11148:x 11150:v",
    "11177:x 11180:v 111E0:x 111E1:v 111F5:x 11200:v 11212:x 11213:v 11242:x 11280:v 11287:x",
    "11288:v 11289:x 1128A:v 1128E:x 1128F:v 1129E:x 1129F:v 112AA:x 112B0:v 112EB:x 112F0:v",
    "112FA:x 11300:v 11304:x 11305:v 1130D:x 1130F:v 11311:x 11313:v 11329:x 1132A:v 11331:x",
    "11332:v 11334:x 11335:v 1133A:x 1133B:v 11345:x 11347:v 11349:x 1134B:v 1134E:x 11350:v",
    "11351:x 11357:v 11358:x 1135D:v 11364:x 11366:v 1136D:x 11370:v 11375:x 11380:v 1138A:x",
    "1138B:v 1138C:x 1138E:v 1138F:x 11390:v 113B6:x 113B7:v 113C1:x 113C2:v 113C3:x 113C5:v",
    "113C6:x 113C7:v 113CB:x 113CC:v 113D6:x 113D7:v 113D9:x 113E1:v 113E3:x 11400:v 1145C:x",
    "1145D:v 11462:x 11480:v 114C8:x 114D0:v 114DA:x 11580:v 115B6:x 115B8:v 115DE:x 11600:v",
    "11645:x 11650:v 1165A:x 11660:v 1166D:x 11680:v 116BA:x 116C0:v 116CA:x 116D0:v 116E4:x",
    "11700:v 1171B:x 1171D:v 1172C:x 11730:v 11747:x 11800:v 1183C:x 118C0:v 118F3:x 118FF:v",
    "11907:x 11909:v 1190A:x 1190C:v 11914:x 11915:v 11917:x 11918:v 11936:x 11937:v 11939:x",
    "1193B:v 11947:x 11950:v 1195A:x 119A0:v 119A8:x 119AA:v 119D8:x 119DA:v 119E5:x 11A00:v",
    "11A48:x 11A50:v 11AA3:x 11AB0:v 11AF9:x 11B00:v 11B0A:x 11B60:v 11B68:x 11BC0:v 11BE2:x",
    "11BF0:v 11BFA:x 11C00:v 11C09:x 11C0A:v 11C37:x 11C38:v 11C46:x 11C50:v 11C6D:x 11C70:v",
    "11C90:x 11C92:v 11CA8:x 11CA9:v 11CB7:x 11D00:v 11D07:x 11D08:v 11D0A:x 11D0B:v 11D37:x",
    "11D3A:v 11D3B:x 11D3C:v 11D3E:x 11D3F:v 11D48:x 11D50:v 11D5A:x 11D60:v 11D66:x 11D67:v",
    "11D69:x 11D6A:v 11D8F:x 11D90:v 11D92:x 11D93:v 11D99:x 11DA0:v 11DAA:x 11DB0:v 11DDC:x",
    "11DE0:v 11DEA:x 11EE0:v 11EF9:x 11F00:v 11F11:x 11F12:v 11F3B:x 11F3E:v 11F5B:x 11FB0:v",
    "11FB1:x 11FC0:v 11FF2:x 11FFF:v 1239A:x 12400:v 1246F:x 12470:v 12475:x 12480:v 12544:x",
    "12F90:v 12FF3:x 13000:v 13430:x 13440:v 13456:x 13460:v 143FB:x 14400:v 14647:x 16100:v",
    "1613A:x 16800:v 16A39:x 16A40:v 16A5F:x 16A60:v 16A6A:x 16A6E:v 16ABF:x 16AC0:v 16ACA:x",
    "16AD0:v 16AEE:x 16AF0:v 16AF6:x 16B00:v 16B46:x 16B50:v 16B5A:x 16B5B:v 16B62:x 16B63:v",
    "16B78:x 16B7D:v 16B90:x 16D40:v 16D7A:x 16E60:v 16E9B:x 16EBB:v 16ED4:x 16F00:v 16F4B:x",
    "16F4F:v 16F88:x 16F8F:v 16FA0:x 16FE0:v 16FE5:x 16FF0:v 16FF7:x 17000:v 18CD6:x 18CFF:v",
    "18D1F:x 18D80:v 18DF3:x 1AFF0:v 1AFF4:x 1AFF5:v 1AFFC:x 1AFFD:v 1AFFF:x 1B000:v 1B123:x",
    "1B132:v 1B133:x 1B150:v 1B153:x 1B155:v 1B156:x 1B164:v 1B168:x 1B170:v 1B2FC:x 1BC00:v",
    "1BC6B:x 1BC70:v 1BC7D:x 1BC80:v 1BC89:x 1BC90:v 1BC9A:x 1BC9C:v 1BCA0:i 1BCA4:x 1CC00:v",
    "1CCFD:x 1CD00:v 1CEB4:x 1CEBA:v 1CED1:x 1CEE0:v 1CEF1:x 1CF00:v 1CF2E:x 1CF30:v 1CF47:x",
    "1CF50:v 1CFC4:x 1D000:v 1D0F6:x 1D100:v 1D127:x 1D129:v 1D173:x 1D17B:v 1D1EB:x 1D200:v",
    "1D246:x 1D2C0:v 1D2D4:x 1D2E0:v 1D2F4:x 1D300:v 1D357:x 1D360:v 1D379:x 1D800:v 1DA8C:x",
    "1DA9B:v 1DAA0:x 1DAA1:v 1DAB0:x 1DF00:v 1DF1F:x 1DF25:v 1DF2B:x 1E000:v 1E007:x 1E008:v",
    "1E019:x 1E01B:v 1E022:x 1E023:v 1E025:x 1E026:v 1E02B:x 1E08F:v 1E090:x 1E100:v 1E12D:x",
    "1E130:v 1E13E:x 1E140:v 1E14A:x 1E14E:v 1E150:x 1E290:v 1E2AF:x 1E2C0:v 1E2FA:x 1E2FF:v",
    "1E300:x 1E4D0:v 1E4FA:x 1E5D0:v 1E5FB:x 1E5FF:v 1E600:x 1E6C0:v 1E6DF:x 1E6E0:v 1E6F6:x",
    "1E6FE:v 1E700:x 1E7E0:v 1E7E7:x 1E7E8:v 1E7EC:x 1E7ED:v 1E7EF:x 1E7F0:v 1E7FF:x 1E800:v",
    "1E8C5:x 1E8C7:v 1E8D7:x 1E922:v 1E94C:x 1E950:v 1E95A:x 1E95E:v 1E960:x 1EC71:v 1ECB5:x",
    "1ED01:v 1ED3E:x 1EEF0:v 1EEF2:x 1F000:v 1F02C:x 1F030:v 1F094:x 1F0A0:v 1F0AF:x 1F0B1:v",
    "1F0C0:x 1F0C1:v 1F0D0:x 1F0D1:v 1F0F6:x 1F10B:v 1F1AE:x 1F1E6:v 1F203:x 1F260:v 1F266:x",
    "1F300:v 1F6D9:x 1F6DC:v 1F6ED:x 1F6F0:v 1F6FD:x 1F700:v 1F7DA:x 1F7E0:v 1F7EC:x 1F7F0:v",
    "1F7F1:x 1F800:v 1F80C:x 1F810:v 1F848:x 1F850:v 1F85A:x 1F860:v 1F888:x 1F890:v 1F8AE:x",
    "1F8B0:v 1F8BC:x 1F8C0:v 1F8C2:x 1F8D0:v 1F8D9:x 1F900:v 1FA58:x 1FA60:v 1FA6E:x 1FA70:v",
    "1FA7D:x 1FA80:v 1FA8B:x 1FA8E:v 1FAC7:x 1FAC8:v 1FAC9:x 1FACD:v 1FADD:x 1FADF:v 1FAEB:x",
    "1FAEF:v 1FAF9:x 1FB00:v 1FB93:x 1FB94:v 1FBFB:x 20000:v 2A6E0:x 2A700:v 2B81E:x 2B820:v",
    "2CEAE:x 2CEB0:v 2EBE1:x 2EBF0:v 2EE5E:x 30000:v 3134B:x 31350:v 3347A:x E0100:i E01F0:x"
  ]

def mapping (c : Char) : Mapping :=
  let n := c.toNat
  if n < 128 then (if c.isUpper then .replaced [c.toLower] else .keep)
  else match shifted? n with
    | some d => .replaced [d]
    | none =>
      match replacement? n with
      | some text => .replaced text
      | none =>
        if statuses.value c = "v" then .keep
        else if statuses.value c = "i" then .dropped
        else .disallowed

end Relay.Url.Idna
