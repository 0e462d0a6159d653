/-!
# Decompositions of characters

Characters that stand for others: letters with marks, ligatures, and forms of a letter or a digit
that differ only in how they look. Neighbouring code points share an entry, which holds the first of
them and what each of them stands for. The syllables of Hangul follow a rule instead.
-/

namespace IssueBoard.Text.Normal

/-- The characters that stand for one other character. -/
def singleForms : List (Nat × String) :=
  [
   (0xA0, " "), (0xAA, "a"), (0xB2, "23"), (0xB5, "μ"), (0xB9, "1o"), (0x17F, "s"),
   (0x2B0, "hɦjrɹɻʁwy"), (0x2E0, "ɣlsxʕ"), (0x340, "\u0300\u0301"), (0x343, "\u0313"),
   (0x374, "ʹ"), (0x37E, ";"), (0x387, "·"), (0x3D0, "βθΥ"), (0x3D5, "φπ"), (0x3F0, "κρς"),
   (0x3F4, "Θε"), (0x3F9, "Σ"), (0xF0C, "་"), (0x10FC, "ნ"), (0x1D2C, "AÆB"),
   (0x1D30, "DEƎGHIJKLMN"), (0x1D3C, "OȢPRTUWaɐɑᴂbdeəɛɜg"),
   (0x1D4F, "kmŋoɔᴖᴗptuᴝɯvᴥβγδφχiruvβγρφχ"), (0x1D78, "н"),
   (0x1D9B, "ɒcɕðɜfɟɡɥɨɩɪᵻʝɭᶅʟɱɰɲɳɴɵɸʂʃƫʉʊᴜʋʌzʐʑʒ"), (0x1DBF, "θ"), (0x1FBE, "ι"),
   (0x1FEF, "\x60"), (0x2000, "           "), (0x2011, "‐"), (0x2024, "."), (0x202F, " "),
   (0x205F, " "), (0x2070, "0i"), (0x2074, "456789+−=()n0123456789+−=()"),
   (0x2090, "aeoxəhklmnpst"), (0x2102, "C"), (0x2107, "Ɛ"), (0x210A, "gHHHhħIILl"), (0x2115, "N"),
   (0x2119, "PQRRR"), (0x2124, "Z"), (0x2126, "Ω"), (0x2128, "Z"), (0x212A, "K"), (0x212C, "BC"),
   (0x212F, "eEF"), (0x2133, "Mo\u05d0\u05d1\u05d2\u05d3i"), (0x213C, "πγΓΠ∑"), (0x2145, "Ddeij"),
   (0x2160, "I"), (0x2164, "V"), (0x2169, "X"), (0x216C, "LCDMi"), (0x2174, "v"), (0x2179, "x"),
   (0x217C, "lcdm"), (0x2329, "〈〉"), (0x2460, "123456789"),
   (0x24B6, "ABCDEFGHIJKLMNOPQRSTUVWXYZabcdefghij"), (0x24DA, "klmnopqrstuvwxyz0"), (0x2C7C, "jV"),
   (0x2D6F, "ⵡ"), (0x2E9F, "母"), (0x2EF3, "龟"), (0x2F00, "一丨丶丿乙亅二亠人儿入八冂冖冫几凵刀力勹匕匚匸十卜卩厂厶又口囗土士夂夊夕"),
   (0x2F24, "大女子宀寸小尢尸屮山巛工己巾干幺广廴廾弋弓彐彡彳心戈戶手支攴文斗斤方无日"),
   (0x2F48, "曰月木欠止歹殳毋比毛氏气水火爪父爻爿片牙牛犬玄玉瓜瓦甘生用田疋疒癶白皮皿"),
   (0x2F6C, "目矛矢石示禸禾穴立竹米糸缶网羊羽老而耒耳聿肉臣自至臼舌舛舟艮色艸虍虫血行"),
   (0x2F90, "衣襾見角言谷豆豕豸貝赤走足身車辛辰辵邑酉釆里金長門阜隶隹雨靑非面革韋韭音"),
   (0x2FB4, "頁風飛食首香馬骨高髟鬥鬯鬲鬼魚鳥鹵鹿麥麻黃黍黑黹黽鼎鼓鼠鼻齊齒龍龜龠"), (0x3000, " "), (0x3036, "〒"), (0x3038, "十卄卅"),
   (0x3131, "ᄀᄁᆪᄂᆬᆭᄃᄄᄅᆰᆱᆲᆳᆴᆵᄚᄆᄇᄈᄡᄉᄊᄋᄌᄍᄎᄏᄐᄑ하ᅢᅣᅤᅥᅦ"),
   (0x3155, "ᅧᅨᅩᅪᅫᅬᅭᅮᅯᅰᅱᅲᅳᅴᅵ\u1160ᄔᄕᇇᇈᇌᇎᇓᇗᇙᄜᇝᇟᄝᄞᄠᄢᄣ"), (0x3176, "ᄧᄩᄫᄬᄭᄮᄯᄲᄶᅀᅇᅌᇱᇲᅗᅘᅙᆄᆅᆈᆑᆒᆔᆞᆡ"),
   (0x3192, "一二三四上中下甲乙丙丁天地人"), (0x3244, "問幼文箏"), (0x3260, "ᄀᄂᄃᄅᄆᄇᄉᄋᄌᄎᄏᄐᄑᄒ"),
   (0x3280, "一二三四五六七八九十月火水木金土日株有社名特財祝労秘男女適優印注項休写正"), (0x32A4, "上中下左右医宗学監企資協夜"),
   (0x32D0, "アイウエオカキクケコサシスセソタチツテトナニヌネノハヒフヘホマミムメモヤ"), (0x32F4, "ユヨラリルレロワヰヱヲ"), (0xA69C, "ъь"),
   (0xA770, "ꝯ"), (0xA7F2, "CFQ"), (0xA7F8, "Ħœ"), (0xAB5C, "ꜧꬷɫꭒ"), (0xAB69, "ʍ"),
   (0xF900, "豈更車賈滑串句龜龜契金喇奈懶癩羅蘿螺裸邏樂洛烙珞落酪駱亂卵欄爛蘭鸞嵐濫藍"),
   (0xF924, "襤拉臘蠟廊朗浪狼郎來冷勞擄櫓爐盧老蘆虜路露魯鷺碌祿綠菉錄鹿論壟弄籠聾牢磊"),
   (0xF948, "賂雷壘屢樓淚漏累縷陋勒肋凜凌稜綾菱陵讀拏樂諾丹寧怒率異北磻便復不泌數索參"),
   (0xF96C, "塞省葉說殺辰沈拾若掠略亮兩凉梁糧良諒量勵呂女廬旅濾礪閭驪麗黎力曆歷轢年憐"),
   (0xF990, "戀撚漣煉璉秊練聯輦蓮連鍊列劣咽烈裂說廉念捻殮簾獵令囹寧嶺怜玲瑩羚聆鈴零靈"),
   (0xF9B4, "領例禮醴隸惡了僚寮尿料樂燎療蓼遼龍暈阮劉杻柳流溜琉留硫紐類六戮陸倫崙淪輪"),
   (0xF9D8, "律慄栗率隆利吏履易李梨泥理痢罹裏裡里離匿溺吝燐璘藺隣鱗麟林淋臨立笠粒狀炙"), (0xF9FC, "識什茶刺切度拓糖宅洞暴輻行降見廓兀嗀"), (0xFA10, "塚"),
   (0xFA12, "晴"), (0xFA15, "凞猪益礼神祥福靖精羽"), (0xFA20, "蘒"), (0xFA22, "諸"), (0xFA25, "逸都"),
   (0xFA2A, "飯飼館鶴郞隷侮僧免勉勤卑喝嘆器塀墨層屮悔慨憎懲敏既暑梅海渚漢煮爫琢碑社祉"), (0xFA4E, "祈祐祖祝禍禎穀突節練縉繁署者臭艹艹著褐視謁謹賓贈辶逸難響頻恵𤋮舘"),
   (0xFA70, "並况全侀充冀勇勺喝啕喙嗢塚墳奄奔婢嬨廒廙彩徭惘慎愈憎慠懲戴揄搜摒敖晴朗望"),
   (0xFA94, "杖歹殺流滛滋漢瀞煮瞧爵犯猪瑱甆画瘝瘟益盛直睊着磌窱節类絛練缾者荒華蝹襁覆"),
   (0xFAB8, "視調諸請謁諾諭謹變贈輸遲醙鉶陼難靖韛響頋頻鬒龜𢡊𢡄𣏕㮝䀘䀹𥉉𥳐𧻓齃龎"),
   (0xFB20, "\u05e2\u05d0\u05d3\u05d4\u05db\u05dc\u05dd\u05e8\u05ea+"),
   (0xFB50, "\u0671\u0671\u067b\u067b\u067b\u067b\u067e\u067e\u067e\u067e"),
   (0xFB5A, "\u0680\u0680\u0680\u0680\u067a\u067a\u067a\u067a\u067f\u067f"),
   (0xFB64, "\u067f\u067f\u0679\u0679\u0679\u0679\u06a4\u06a4\u06a4\u06a4"),
   (0xFB6E, "\u06a6\u06a6\u06a6\u06a6\u0684\u0684\u0684\u0684\u0683\u0683"),
   (0xFB78, "\u0683\u0683\u0686\u0686\u0686\u0686\u0687\u0687\u0687\u0687"),
   (0xFB82, "\u068d\u068d\u068c\u068c\u068e\u068e\u0688\u0688\u0698\u0698"),
   (0xFB8C, "\u0691\u0691\u06a9\u06a9\u06a9\u06a9\u06af\u06af\u06af\u06af"),
   (0xFB96, "\u06b3\u06b3\u06b3\u06b3\u06b1\u06b1\u06b1\u06b1\u06ba\u06ba"),
   (0xFBA0, "\u06bb\u06bb\u06bb\u06bb"),
   (0xFBA6, "\u06c1\u06c1\u06c1\u06c1\u06be\u06be\u06be\u06be\u06d2\u06d2"),
   (0xFBD3, "\u06ad\u06ad\u06ad\u06ad\u06c7\u06c7\u06c6\u06c6\u06c8\u06c8"),
   (0xFBDE, "\u06cb\u06cb\u06c5\u06c5\u06c9\u06c9\u06d0\u06d0\u06d0\u06d0"),
   (0xFBE8, "\u0649\u0649"), (0xFBFC, "\u06cc\u06cc\u06cc\u06cc"), (0xFE10, ",、。:;!?〖〗"),
   (0xFE31, "—–__()\x7b\x7d〔〕【】《》〈〉「」『』"), (0xFE47, "[]"), (0xFE4D, "___,、."),
   (0xFE54, ";:?!—()\x7b\x7d〔〕#&*+-<>="), (0xFE68, "\x5c$%@"), (0xFE80, "\u0621"),
   (0xFE8D, "\u0627\u0627\u0628\u0628\u0628\u0628\u0629\u0629\u062a\u062a"),
   (0xFE97, "\u062a\u062a\u062b\u062b\u062b\u062b\u062c\u062c\u062c\u062c"),
   (0xFEA1, "\u062d\u062d\u062d\u062d\u062e\u062e\u062e\u062e\u062f\u062f"),
   (0xFEAB, "\u0630\u0630\u0631\u0631\u0632\u0632\u0633\u0633\u0633\u0633"),
   (0xFEB5, "\u0634\u0634\u0634\u0634\u0635\u0635\u0635\u0635\u0636\u0636"),
   (0xFEBF, "\u0636\u0636\u0637\u0637\u0637\u0637\u0638\u0638\u0638\u0638"),
   (0xFEC9, "\u0639\u0639\u0639\u0639\u063a\u063a\u063a\u063a\u0641\u0641"),
   (0xFED3, "\u0641\u0641\u0642\u0642\u0642\u0642\u0643\u0643\u0643\u0643"),
   (0xFEDD, "\u0644\u0644\u0644\u0644\u0645\u0645\u0645\u0645\u0646\u0646"),
   (0xFEE7, "\u0646\u0646\u0647\u0647\u0647\u0647\u0648\u0648\u0649\u0649"),
   (0xFEF1, "\u064a\u064a\u064a\u064a"), (0xFF01, "!\x22#$%&'()*+,-./0123456789:;<=>?@AB"),
   (0xFF23, "CDEFGHIJKLMNOPQRSTUVWXYZ[\x5c]^_\x60abc"),
   (0xFF44, "defghijklmnopqrstuvwxyz\x7b|\x7d~⦅⦆。「」、"),
   (0xFF65, "・ヲァィゥェォャュョッーアイウエオカキクケコサシスセソタチツテトナニヌネ"),
   (0xFF89, "ノハヒフヘホマミムメモヤユヨラリルレロワン\u3099\u309a\u1160ᄀᄁᆪᄂ"), (0xFFA5, "ᆬᆭᄃᄄᄅᆰᆱᆲᆳᆴᆵᄚᄆᄇᄈᄡᄉᄊᄋᄌᄍᄎᄏᄐᄑᄒ"),
   (0xFFC2, "ᅡᅢᅣᅤᅥᅦ"), (0xFFCA, "ᅧᅨᅩᅪᅫᅬ"), (0xFFD2, "ᅭᅮᅯᅰᅱᅲ"), (0xFFDA, "ᅳᅴᅵ"), (0xFFE0, "¢£¬"),
   (0xFFE4, "¦¥₩"), (0xFFE8, "│←↑→↓■○"), (0x10781, "ːˑæʙɓ"),
   (0x10787, "ʣꭦʥʤɖɗᶑɘɞʩɤɢɠʛħʜɧʄʪʫɬ𝼄ꞎɮ𝼅ʎ𝼆øɶɷqɺ𝼈ɽɾʀ"), (0x107AB, "ʨʦꭧʧʈⱱ"), (0x107B2, "ʏʡʢʘǀǁǂ𝼊𝼞"),
   (0x1D400, "ABCDEFGHIJKLMNOPQRSTUVWXYZabcdefghij"),
   (0x1D424, "klmnopqrstuvwxyzABCDEFGHIJKLMNOPQRST"), (0x1D448, "UVWXYZabcdefg"),
   (0x1D456, "ijklmnopqrstuvwxyzABCDEFGHIJKLMNOPQR"),
   (0x1D47A, "STUVWXYZabcdefghijklmnopqrstuvwxyzA"), (0x1D49E, "CD"), (0x1D4A2, "G"),
   (0x1D4A5, "JK"), (0x1D4A9, "NOPQ"), (0x1D4AE, "STUVWXYZabcd"), (0x1D4BB, "f"),
   (0x1D4BD, "hijklmn"), (0x1D4C5, "pqrstuvwxyzABCDEFGHIJKLMNOPQRSTUVWXY"),
   (0x1D4E9, "ZabcdefghijklmnopqrstuvwxyzAB"), (0x1D507, "DEFG"), (0x1D50D, "JKLMNOPQ"),
   (0x1D516, "STUVWXY"), (0x1D51E, "abcdefghijklmnopqrstuvwxyzAB"), (0x1D53B, "DEFG"),
   (0x1D540, "IJKLM"), (0x1D546, "O"), (0x1D54A, "STUVWXY"),
   (0x1D552, "abcdefghijklmnopqrstuvwxyzABCDEFGHIJ"),
   (0x1D576, "KLMNOPQRSTUVWXYZabcdefghijklmnopqrst"),
   (0x1D59A, "uvwxyzABCDEFGHIJKLMNOPQRSTUVWXYZabcd"),
   (0x1D5BE, "efghijklmnopqrstuvwxyzABCDEFGHIJKLMN"),
   (0x1D5E2, "OPQRSTUVWXYZabcdefghijklmnopqrstuvwx"),
   (0x1D606, "yzABCDEFGHIJKLMNOPQRSTUVWXYZabcdefgh"),
   (0x1D62A, "ijklmnopqrstuvwxyzABCDEFGHIJKLMNOPQR"),
   (0x1D64E, "STUVWXYZabcdefghijklmnopqrstuvwxyzAB"),
   (0x1D672, "CDEFGHIJKLMNOPQRSTUVWXYZabcdefghijkl"), (0x1D696, "mnopqrstuvwxyzıȷ"),
   (0x1D6A8, "ΑΒΓΔΕΖΗΘΙΚΛΜΝΞΟΠΡΘΣΤΥΦΧΨΩ∇αβγδεζηθικ"),
   (0x1D6CC, "λμνξοπρςστυφχψω∂εθκφρπΑΒΓΔΕΖΗΘΙΚΛΜΝΞ"),
   (0x1D6F0, "ΟΠΡΘΣΤΥΦΧΨΩ∇αβγδεζηθικλμνξοπρςστυφχψ"),
   (0x1D714, "ω∂εθκφρπΑΒΓΔΕΖΗΘΙΚΛΜΝΞΟΠΡΘΣΤΥΦΧΨΩ∇αβ"),
   (0x1D738, "γδεζηθικλμνξοπρςστυφχψω∂εθκφρπΑΒΓΔΕΖ"),
   (0x1D75C, "ΗΘΙΚΛΜΝΞΟΠΡΘΣΤΥΦΧΨΩ∇αβγδεζηθικλμνξοπ"),
   (0x1D780, "ρςστυφχψω∂εθκφρπΑΒΓΔΕΖΗΘΙΚΛΜΝΞΟΠΡΘΣΤ"),
   (0x1D7A4, "ΥΦΧΨΩ∇αβγδεζηθικλμνξοπρςστυφχψω∂εθκφ"), (0x1D7C8, "ρπϜϝ"),
   (0x1D7CE, "012345678901234567890123456789012345"), (0x1D7F2, "67890123456789"),
   (0x1EE00, "\u0627\u0628\u062c\u062f"),
   (0x1EE05, "\u0648\u0632\u062d\u0637\u064a\u0643\u0644\u0645\u0646\u0633"),
   (0x1EE0F, "\u0639\u0641\u0635\u0642\u0631\u0634\u062a\u062b\u062e\u0630"),
   (0x1EE19, "\u0636\u0638\u063a\u066e\u06ba\u06a1\u066f"), (0x1EE21, "\u0628\u062c"),
   (0x1EE24, "\u0647"), (0x1EE27, "\u062d"),
   (0x1EE29, "\u064a\u0643\u0644\u0645\u0646\u0633\u0639\u0641\u0635\u0642"),
   (0x1EE34, "\u0634\u062a\u062b\u062e"), (0x1EE39, "\u0636"), (0x1EE3B, "\u063a"),
   (0x1EE42, "\u062c"), (0x1EE47, "\u062d"), (0x1EE49, "\u064a"), (0x1EE4B, "\u0644"),
   (0x1EE4D, "\u0646\u0633\u0639"), (0x1EE51, "\u0635\u0642"), (0x1EE54, "\u0634"),
   (0x1EE57, "\u062e"), (0x1EE59, "\u0636"), (0x1EE5B, "\u063a"), (0x1EE5D, "\u06ba"),
   (0x1EE5F, "\u066f"), (0x1EE61, "\u0628\u062c"), (0x1EE64, "\u0647"),
   (0x1EE67, "\u062d\u0637\u064a\u0643"), (0x1EE6C, "\u0645\u0646\u0633\u0639\u0641\u0635\u0642"),
   (0x1EE74, "\u0634\u062a\u062b\u062e"), (0x1EE79, "\u0636\u0638\u063a\u066e"),
   (0x1EE7E, "\u06a1"), (0x1EE80, "\u0627\u0628\u062c\u062f\u0647\u0648\u0632\u062d\u0637\u064a"),
   (0x1EE8B, "\u0644\u0645\u0646\u0633\u0639\u0641\u0635\u0642\u0631\u0634"),
   (0x1EE95, "\u062a\u062b\u062e\u0630\u0636\u0638\u063a"), (0x1EEA1, "\u0628\u062c\u062f"),
   (0x1EEA5, "\u0648\u0632\u062d\u0637\u064a"),
   (0x1EEAB, "\u0644\u0645\u0646\u0633\u0639\u0641\u0635\u0642\u0631\u0634"),
   (0x1EEB5, "\u062a\u062b\u062e\u0630\u0636\u0638\u063a"), (0x1F12B, "CR"),
   (0x1F130, "ABCDEFGHIJKLMNOPQRSTUVWXYZ"), (0x1F202, "サ"), (0x1F210, "手字双"),
   (0x1F214, "二多解天交映無料前後再新初終生販声吹演投捕一三遊左中右指走打禁空合満有月"), (0x1F238, "申割営配"), (0x1F250, "得可"),
   (0x1FBF0, "0123456789"), (0x2F800, "丽丸乁𠄢你侮侻倂偺備僧像㒞𠘺免兔兤具𠔜㒹內再𠕋冗冤仌冬况𩇟凵刃㓟刻剆割剷"),
   (0x2F824, "㔕勇勉勤勺包匆北卉卑博即卽卿卿卿𠨬灰及叟𠭣叫叱吆咞吸呈周咢哶唐啓啣善善喙"),
   (0x2F848, "喫喳嗂圖嘆圗噑噴切壮城埴堍型堲報墬𡓤売壷夆多夢奢𡚨𡛪姬娛娧姘婦㛮㛼嬈嬾嬾"),
   (0x2F86C, "𡧈寃寘寧寳𡬘寿将当尢㞁屠屮峀岍𡷤嵃𡷦嵮嵫嵼巡巢㠯巽帨帽幩㡢𢆃㡼庰庳庶廊𪎒"),
   (0x2F890, "廾𢌱𢌱舁弢弢㣇𣊸𦇚形彫㣣徚忍志忹悁㤺㤜悔𢛔惇慈慌慎慌慺憎憲憤憯懞懲懶成戛"),
   (0x2F8B4, "扝抱拔捐𢬌挽拼捨掃揤𢯱搢揅掩㨮摩摾撝摷㩬敏敬𣀊旣書晉㬙暑㬈㫤冒冕最暜肭䏙"),
   (0x2F8D8, "朗望朡杞杓𣏃㭉柺枅桒梅𣑭梎栟椔㮝楂榣槪檨𣚣櫛㰘次𣢧歔㱎歲殟殺殻𣪍𡴋𣫺汎𣲼"),
   (0x2F8FC, "沿泍汧洖派海流浩浸涅𣴞洴港湮㴳滋滇𣻑淹潮𣽞𣾎濆瀹瀞瀛㶖灊災灷炭𠔥煅𤉣熜𤎫"),
   (0x2F920, "爨爵牐𤘈犀犕𤜵𤠔獺王㺬玥㺸㺸瑇瑜瑱璅瓊㼛甤𤰶甾𤲒異𢆟瘐𤾡𤾸𥁄㿼䀈直𥃳𥃲𥄙"),
   (0x2F944, "𥄳眞真真睊䀹瞋䁆䂖𥐝硎碌磌䃣𥘦祖𥚚𥛅福秫䄯穀穊穏𥥼𥪧𥪧竮䈂𥮫篆築䈧𥲀糒䊠"),
   (0x2F968, "糨糣紀𥾆絣䌁緇縂繅䌴𦈨𦉇䍙𦋙罺𦌾羕翺者𦓚𦔣聠𦖨聰𣍟䏕育脃䐋脾媵𦞧𦞵𣎓𣎜舁"),
   (0x2F98C, "舄辞䑫芑芋芝劳花芳芽苦𦬼若茝荣莭茣莽菧著荓菊菌菜𦰶𦵫𦳕䔫蓱蓳蔖𧏊蕤𦼬䕝䕡"),
   (0x2F9B0, "𦾱𧃒䕫虐虜虧虩蚩蚈蜎蛢蝹蜨蝫螆䗗蟡蠁䗹衠衣𧙧裗裞䘵裺㒻𧢮𧥦䚾䛇誠諭變豕𧲨"),
   (0x2F9D4, "貫賁贛起𧼯𠠄跋趼跰𠣞軔輸𨗒𨗭邔郱鄑𨜮鄛鈸鋗鋘鉼鏹鐕𨯺開䦕閷𨵷䧦雃嶲霣𩅅𩈚"),
   (0x2F9F8, "䩮䩶韠𩐊䪲𩒖頋頋頩𩖶飢䬳餩馧駂駾䯎𩬰鬒鱀鳽䳎䳭鵧𪃎䳸𪄅𪈎𪊑麻䵖黹黾鼅鼏鼖"), (0x2FA1C, "鼻𪘀")]

/-- The characters that stand for several; bars separate what neighbours stand for. -/
def sequenceForms : List (Nat × String) :=
  [
   (0xA8, " \u0308"), (0xAF, " \u0304"), (0xB4, " \u0301"), (0xB8, " \u0327"),
   (0xBC, "1⁄4|1⁄2|3⁄4"), (0xC0, "A\u0300|A\u0301|A\u0302|A\u0303|A\u0308|A\u030a"),
   (0xC7, "C\u0327|E\u0300|E\u0301|E\u0302|E\u0308|I\u0300|I\u0301|I\u0302|I\u0308"),
   (0xD1, "N\u0303|O\u0300|O\u0301|O\u0302|O\u0303|O\u0308"),
   (0xD9, "U\u0300|U\u0301|U\u0302|U\u0308|Y\u0301"),
   (0xE0, "a\u0300|a\u0301|a\u0302|a\u0303|a\u0308|a\u030a"),
   (0xE7, "c\u0327|e\u0300|e\u0301|e\u0302|e\u0308|i\u0300|i\u0301|i\u0302|i\u0308"),
   (0xF1, "n\u0303|o\u0300|o\u0301|o\u0302|o\u0303|o\u0308"),
   (0xF9, "u\u0300|u\u0301|u\u0302|u\u0308|y\u0301"),
   (0xFF, "y\u0308|A\u0304|a\u0304|A\u0306|a\u0306|A\u0328|a\u0328|C\u0301|c\u0301"),
   (0x108, "C\u0302|c\u0302|C\u0307|c\u0307|C\u030c|c\u030c|D\u030c|d\u030c"),
   (0x112, "E\u0304|e\u0304|E\u0306|e\u0306|E\u0307|e\u0307|E\u0328|e\u0328|E\u030c"),
   (0x11B, "e\u030c|G\u0302|g\u0302|G\u0306|g\u0306|G\u0307|g\u0307|G\u0327|g\u0327"),
   (0x124, "H\u0302|h\u0302"),
   (0x128, "I\u0303|i\u0303|I\u0304|i\u0304|I\u0306|i\u0306|I\u0328|i\u0328|I\u0307"),
   (0x132, "IJ|ij|J\u0302|j\u0302|K\u0327|k\u0327"),
   (0x139, "L\u0301|l\u0301|L\u0327|l\u0327|L\u030c|l\u030c|L·|l·"),
   (0x143, "N\u0301|n\u0301|N\u0327|n\u0327|N\u030c|n\u030c|ʼn"),
   (0x14C, "O\u0304|o\u0304|O\u0306|o\u0306|O\u030b|o\u030b"),
   (0x154, "R\u0301|r\u0301|R\u0327|r\u0327|R\u030c|r\u030c|S\u0301|s\u0301|S\u0302"),
   (0x15D, "s\u0302|S\u0327|s\u0327|S\u030c|s\u030c|T\u0327|t\u0327|T\u030c|t\u030c"),
   (0x168, "U\u0303|u\u0303|U\u0304|u\u0304|U\u0306|u\u0306|U\u030a|u\u030a|U\u030b"),
   (0x171, "u\u030b|U\u0328|u\u0328|W\u0302|w\u0302|Y\u0302|y\u0302|Y\u0308|Z\u0301"),
   (0x17A, "z\u0301|Z\u0307|z\u0307|Z\u030c|z\u030c"), (0x1A0, "O\u031b|o\u031b"),
   (0x1AF, "U\u031b|u\u031b"),
   (0x1C4, "DZ\u030c|Dz\u030c|dz\u030c|LJ|Lj|lj|NJ|Nj|nj|A\u030c|a\u030c|I\u030c"),
   (0x1D0, "i\u030c|O\u030c|o\u030c|U\u030c|u\u030c|U\u0308\u0304|u\u0308\u0304"),
   (0x1D7, "U\u0308\u0301|u\u0308\u0301|U\u0308\u030c|u\u0308\u030c|U\u0308\u0300"),
   (0x1DC, "u\u0308\u0300"),
   (0x1DE, "A\u0308\u0304|a\u0308\u0304|A\u0307\u0304|a\u0307\u0304|Æ\u0304|æ\u0304"),
   (0x1E6, "G\u030c|g\u030c|K\u030c|k\u030c|O\u0328|o\u0328|O\u0328\u0304"),
   (0x1ED, "o\u0328\u0304|Ʒ\u030c|ʒ\u030c|j\u030c|DZ|Dz|dz|G\u0301|g\u0301"),
   (0x1F8, "N\u0300|n\u0300|A\u030a\u0301|a\u030a\u0301|Æ\u0301|æ\u0301|Ø\u0301"),
   (0x1FF, "ø\u0301|A\u030f|a\u030f|A\u0311|a\u0311|E\u030f|e\u030f|E\u0311|e\u0311"),
   (0x208, "I\u030f|i\u030f|I\u0311|i\u0311|O\u030f|o\u030f|O\u0311|o\u0311|R\u030f"),
   (0x211, "r\u030f|R\u0311|r\u0311|U\u030f|u\u030f|U\u0311|u\u0311|S\u0326|s\u0326"),
   (0x21A, "T\u0326|t\u0326"), (0x21E, "H\u030c|h\u030c"),
   (0x226, "A\u0307|a\u0307|E\u0327|e\u0327|O\u0308\u0304|o\u0308\u0304"),
   (0x22C, "O\u0303\u0304|o\u0303\u0304|O\u0307|o\u0307|O\u0307\u0304|o\u0307\u0304"),
   (0x232, "Y\u0304|y\u0304"), (0x2D8, " \u0306| \u0307| \u030a| \u0328| \u0303| \u030b"),
   (0x344, "\u0308\u0301"), (0x37A, " \u0345"), (0x384, " \u0301| \u0308\u0301|Α\u0301"),
   (0x388, "Ε\u0301|Η\u0301|Ι\u0301"), (0x38C, "Ο\u0301"),
   (0x38E, "Υ\u0301|Ω\u0301|ι\u0308\u0301"),
   (0x3AA, "Ι\u0308|Υ\u0308|α\u0301|ε\u0301|η\u0301|ι\u0301|υ\u0308\u0301"),
   (0x3CA, "ι\u0308|υ\u0308|ο\u0301|υ\u0301|ω\u0301"), (0x3D3, "Υ\u0301|Υ\u0308"),
   (0x400, "Е\u0300|Е\u0308"), (0x403, "Г\u0301"), (0x407, "І\u0308"),
   (0x40C, "К\u0301|И\u0300|У\u0306"), (0x419, "И\u0306"), (0x439, "и\u0306"),
   (0x450, "е\u0300|е\u0308"), (0x453, "г\u0301"), (0x457, "і\u0308"),
   (0x45C, "к\u0301|и\u0300|у\u0306"), (0x476, "Ѵ\u030f|ѵ\u030f"), (0x4C1, "Ж\u0306|ж\u0306"),
   (0x4D0, "А\u0306|а\u0306|А\u0308|а\u0308"), (0x4D6, "Е\u0306|е\u0306"),
   (0x4DA, "Ә\u0308|ә\u0308|Ж\u0308|ж\u0308|З\u0308|з\u0308"),
   (0x4E2, "И\u0304|и\u0304|И\u0308|и\u0308|О\u0308|о\u0308"),
   (0x4EA, "Ө\u0308|ө\u0308|Э\u0308|э\u0308|У\u0304|у\u0304|У\u0308|у\u0308|У\u030b"),
   (0x4F3, "у\u030b|Ч\u0308|ч\u0308"), (0x4F8, "Ы\u0308|ы\u0308"), (0x587, "եւ"),
   (0x622, "\u0627\u0653|\u0627\u0654|\u0648\u0654|\u0627\u0655|\u064a\u0654"),
   (0x675, "\u0627\u0674|\u0648\u0674|\u06c7\u0674|\u064a\u0674"), (0x6C0, "\u06d5\u0654"),
   (0x6C2, "\u06c1\u0654"), (0x6D3, "\u06d2\u0654"), (0x929, "न\u093c"), (0x931, "र\u093c"),
   (0x934, "ळ\u093c"), (0x958, "क\u093c|ख\u093c|ग\u093c|ज\u093c|ड\u093c|ढ\u093c|फ\u093c|य\u093c"),
   (0x9CB, "\u09c7\u09be|\u09c7\u09d7"), (0x9DC, "ড\u09bc|ঢ\u09bc"), (0x9DF, "য\u09bc"),
   (0xA33, "ਲ\u0a3c"), (0xA36, "ਸ\u0a3c"), (0xA59, "ਖ\u0a3c|ਗ\u0a3c|ਜ\u0a3c"), (0xA5E, "ਫ\u0a3c"),
   (0xB48, "\u0b47\u0b56"), (0xB4B, "\u0b47\u0b3e|\u0b47\u0b57"), (0xB5C, "ଡ\u0b3c|ଢ\u0b3c"),
   (0xB94, "ஒ\u0bd7"), (0xBCA, "\u0bc6\u0bbe|\u0bc7\u0bbe|\u0bc6\u0bd7"), (0xC48, "\u0c46\u0c56"),
   (0xCC0, "\u0cbf\u0cd5"), (0xCC7, "\u0cc6\u0cd5|\u0cc6\u0cd6"),
   (0xCCA, "\u0cc6\u0cc2|\u0cc6\u0cc2\u0cd5"), (0xD4A, "\u0d46\u0d3e|\u0d47\u0d3e|\u0d46\u0d57"),
   (0xDDA, "\u0dd9\u0dca"), (0xDDC, "\u0dd9\u0dcf|\u0dd9\u0dcf\u0dca|\u0dd9\u0ddf"),
   (0xE33, "\u0e4dา"), (0xEB3, "\u0ecdາ"), (0xEDC, "ຫນ|ຫມ"), (0xF43, "ག\u0fb7"),
   (0xF4D, "ཌ\u0fb7"), (0xF52, "ད\u0fb7"), (0xF57, "བ\u0fb7"), (0xF5C, "ཛ\u0fb7"),
   (0xF69, "ཀ\u0fb5"), (0xF73, "\u0f71\u0f72"),
   (0xF75, "\u0f71\u0f74|\u0fb2\u0f80|\u0fb2\u0f71\u0f80|\u0fb3\u0f80"),
   (0xF79, "\u0fb3\u0f71\u0f80"), (0xF81, "\u0f71\u0f80"), (0xF93, "\u0f92\u0fb7"),
   (0xF9D, "\u0f9c\u0fb7"), (0xFA2, "\u0fa1\u0fb7"), (0xFA7, "\u0fa6\u0fb7"),
   (0xFAC, "\u0fab\u0fb7"), (0xFB9, "\u0f90\u0fb5"), (0x1026, "ဥ\u102e"), (0x1B06, "ᬅ\u1b35"),
   (0x1B08, "ᬇ\u1b35"), (0x1B0A, "ᬉ\u1b35"), (0x1B0C, "ᬋ\u1b35"), (0x1B0E, "ᬍ\u1b35"),
   (0x1B12, "ᬑ\u1b35"), (0x1B3B, "\u1b3a\u1b35"), (0x1B3D, "\u1b3c\u1b35"),
   (0x1B40, "\u1b3e\u1b35|\u1b3f\u1b35"), (0x1B43, "\u1b42\u1b35"),
   (0x1E00, "A\u0325|a\u0325|B\u0307|b\u0307|B\u0323|b\u0323|B\u0331|b\u0331"),
   (0x1E08, "C\u0327\u0301|c\u0327\u0301|D\u0307|d\u0307|D\u0323|d\u0323|D\u0331"),
   (0x1E0F, "d\u0331|D\u0327|d\u0327|D\u032d|d\u032d|E\u0304\u0300|e\u0304\u0300"),
   (0x1E16, "E\u0304\u0301|e\u0304\u0301|E\u032d|e\u032d|E\u0330|e\u0330"),
   (0x1E1C, "E\u0327\u0306|e\u0327\u0306|F\u0307|f\u0307|G\u0304|g\u0304|H\u0307"),
   (0x1E23, "h\u0307|H\u0323|h\u0323|H\u0308|h\u0308|H\u0327|h\u0327|H\u032e|h\u032e"),
   (0x1E2C, "I\u0330|i\u0330|I\u0308\u0301|i\u0308\u0301|K\u0301|k\u0301|K\u0323"),
   (0x1E33, "k\u0323|K\u0331|k\u0331|L\u0323|l\u0323|L\u0323\u0304|l\u0323\u0304"),
   (0x1E3A, "L\u0331|l\u0331|L\u032d|l\u032d|M\u0301|m\u0301|M\u0307|m\u0307|M\u0323"),
   (0x1E43, "m\u0323|N\u0307|n\u0307|N\u0323|n\u0323|N\u0331|n\u0331|N\u032d|n\u032d"),
   (0x1E4C, "O\u0303\u0301|o\u0303\u0301|O\u0303\u0308|o\u0303\u0308|O\u0304\u0300"),
   (0x1E51, "o\u0304\u0300|O\u0304\u0301|o\u0304\u0301|P\u0301|p\u0301|P\u0307"),
   (0x1E57, "p\u0307|R\u0307|r\u0307|R\u0323|r\u0323|R\u0323\u0304|r\u0323\u0304"),
   (0x1E5E, "R\u0331|r\u0331|S\u0307|s\u0307|S\u0323|s\u0323|S\u0301\u0307"),
   (0x1E65, "s\u0301\u0307|S\u030c\u0307|s\u030c\u0307|S\u0323\u0307|s\u0323\u0307"),
   (0x1E6A, "T\u0307|t\u0307|T\u0323|t\u0323|T\u0331|t\u0331|T\u032d|t\u032d|U\u0324"),
   (0x1E73, "u\u0324|U\u0330|u\u0330|U\u032d|u\u032d|U\u0303\u0301|u\u0303\u0301"),
   (0x1E7A, "U\u0304\u0308|u\u0304\u0308|V\u0303|v\u0303|V\u0323|v\u0323|W\u0300"),
   (0x1E81, "w\u0300|W\u0301|w\u0301|W\u0308|w\u0308|W\u0307|w\u0307|W\u0323|w\u0323"),
   (0x1E8A, "X\u0307|x\u0307|X\u0308|x\u0308|Y\u0307|y\u0307|Z\u0302|z\u0302|Z\u0323"),
   (0x1E93, "z\u0323|Z\u0331|z\u0331|h\u0331|t\u0308|w\u030a|y\u030a|aʾ|s\u0307"),
   (0x1EA0, "A\u0323|a\u0323|A\u0309|a\u0309|A\u0302\u0301|a\u0302\u0301"),
   (0x1EA6, "A\u0302\u0300|a\u0302\u0300|A\u0302\u0309|a\u0302\u0309|A\u0302\u0303"),
   (0x1EAB, "a\u0302\u0303|A\u0323\u0302|a\u0323\u0302|A\u0306\u0301|a\u0306\u0301"),
   (0x1EB0, "A\u0306\u0300|a\u0306\u0300|A\u0306\u0309|a\u0306\u0309|A\u0306\u0303"),
   (0x1EB5, "a\u0306\u0303|A\u0323\u0306|a\u0323\u0306|E\u0323|e\u0323|E\u0309"),
   (0x1EBB, "e\u0309|E\u0303|e\u0303|E\u0302\u0301|e\u0302\u0301|E\u0302\u0300"),
   (0x1EC1, "e\u0302\u0300|E\u0302\u0309|e\u0302\u0309|E\u0302\u0303|e\u0302\u0303"),
   (0x1EC6, "E\u0323\u0302|e\u0323\u0302|I\u0309|i\u0309|I\u0323|i\u0323|O\u0323"),
   (0x1ECD, "o\u0323|O\u0309|o\u0309|O\u0302\u0301|o\u0302\u0301|O\u0302\u0300"),
   (0x1ED3, "o\u0302\u0300|O\u0302\u0309|o\u0302\u0309|O\u0302\u0303|o\u0302\u0303"),
   (0x1ED8, "O\u0323\u0302|o\u0323\u0302|O\u031b\u0301|o\u031b\u0301|O\u031b\u0300"),
   (0x1EDD, "o\u031b\u0300|O\u031b\u0309|o\u031b\u0309|O\u031b\u0303|o\u031b\u0303"),
   (0x1EE2, "O\u031b\u0323|o\u031b\u0323|U\u0323|u\u0323|U\u0309|u\u0309"),
   (0x1EE8, "U\u031b\u0301|u\u031b\u0301|U\u031b\u0300|u\u031b\u0300|U\u031b\u0309"),
   (0x1EED, "u\u031b\u0309|U\u031b\u0303|u\u031b\u0303|U\u031b\u0323|u\u031b\u0323"),
   (0x1EF2, "Y\u0300|y\u0300|Y\u0323|y\u0323|Y\u0309|y\u0309|Y\u0303|y\u0303"),
   (0x1F00, "α\u0313|α\u0314|α\u0313\u0300|α\u0314\u0300|α\u0313\u0301|α\u0314\u0301"),
   (0x1F06, "α\u0313\u0342|α\u0314\u0342|Α\u0313|Α\u0314|Α\u0313\u0300|Α\u0314\u0300"),
   (0x1F0C, "Α\u0313\u0301|Α\u0314\u0301|Α\u0313\u0342|Α\u0314\u0342|ε\u0313|ε\u0314"),
   (0x1F12, "ε\u0313\u0300|ε\u0314\u0300|ε\u0313\u0301|ε\u0314\u0301"),
   (0x1F18, "Ε\u0313|Ε\u0314|Ε\u0313\u0300|Ε\u0314\u0300|Ε\u0313\u0301|Ε\u0314\u0301"),
   (0x1F20, "η\u0313|η\u0314|η\u0313\u0300|η\u0314\u0300|η\u0313\u0301|η\u0314\u0301"),
   (0x1F26, "η\u0313\u0342|η\u0314\u0342|Η\u0313|Η\u0314|Η\u0313\u0300|Η\u0314\u0300"),
   (0x1F2C, "Η\u0313\u0301|Η\u0314\u0301|Η\u0313\u0342|Η\u0314\u0342|ι\u0313|ι\u0314"),
   (0x1F32, "ι\u0313\u0300|ι\u0314\u0300|ι\u0313\u0301|ι\u0314\u0301|ι\u0313\u0342"),
   (0x1F37, "ι\u0314\u0342|Ι\u0313|Ι\u0314|Ι\u0313\u0300|Ι\u0314\u0300|Ι\u0313\u0301"),
   (0x1F3D, "Ι\u0314\u0301|Ι\u0313\u0342|Ι\u0314\u0342|ο\u0313|ο\u0314|ο\u0313\u0300"),
   (0x1F43, "ο\u0314\u0300|ο\u0313\u0301|ο\u0314\u0301"),
   (0x1F48, "Ο\u0313|Ο\u0314|Ο\u0313\u0300|Ο\u0314\u0300|Ο\u0313\u0301|Ο\u0314\u0301"),
   (0x1F50, "υ\u0313|υ\u0314|υ\u0313\u0300|υ\u0314\u0300|υ\u0313\u0301|υ\u0314\u0301"),
   (0x1F56, "υ\u0313\u0342|υ\u0314\u0342"), (0x1F59, "Υ\u0314"), (0x1F5B, "Υ\u0314\u0300"),
   (0x1F5D, "Υ\u0314\u0301"),
   (0x1F5F, "Υ\u0314\u0342|ω\u0313|ω\u0314|ω\u0313\u0300|ω\u0314\u0300|ω\u0313\u0301"),
   (0x1F65, "ω\u0314\u0301|ω\u0313\u0342|ω\u0314\u0342|Ω\u0313|Ω\u0314|Ω\u0313\u0300"),
   (0x1F6B, "Ω\u0314\u0300|Ω\u0313\u0301|Ω\u0314\u0301|Ω\u0313\u0342|Ω\u0314\u0342"),
   (0x1F70, "α\u0300|α\u0301|ε\u0300|ε\u0301|η\u0300|η\u0301|ι\u0300|ι\u0301|ο\u0300"),
   (0x1F79, "ο\u0301|υ\u0300|υ\u0301|ω\u0300|ω\u0301"),
   (0x1F80, "α\u0313\u0345|α\u0314\u0345|α\u0313\u0300\u0345|α\u0314\u0300\u0345"),
   (0x1F84, "α\u0313\u0301\u0345|α\u0314\u0301\u0345|α\u0313\u0342\u0345"),
   (0x1F87, "α\u0314\u0342\u0345|Α\u0313\u0345|Α\u0314\u0345|Α\u0313\u0300\u0345"),
   (0x1F8B, "Α\u0314\u0300\u0345|Α\u0313\u0301\u0345|Α\u0314\u0301\u0345"),
   (0x1F8E, "Α\u0313\u0342\u0345|Α\u0314\u0342\u0345|η\u0313\u0345|η\u0314\u0345"),
   (0x1F92, "η\u0313\u0300\u0345|η\u0314\u0300\u0345|η\u0313\u0301\u0345"),
   (0x1F95, "η\u0314\u0301\u0345|η\u0313\u0342\u0345|η\u0314\u0342\u0345"),
   (0x1F98, "Η\u0313\u0345|Η\u0314\u0345|Η\u0313\u0300\u0345|Η\u0314\u0300\u0345"),
   (0x1F9C, "Η\u0313\u0301\u0345|Η\u0314\u0301\u0345|Η\u0313\u0342\u0345"),
   (0x1F9F, "Η\u0314\u0342\u0345|ω\u0313\u0345|ω\u0314\u0345|ω\u0313\u0300\u0345"),
   (0x1FA3, "ω\u0314\u0300\u0345|ω\u0313\u0301\u0345|ω\u0314\u0301\u0345"),
   (0x1FA6, "ω\u0313\u0342\u0345|ω\u0314\u0342\u0345|Ω\u0313\u0345|Ω\u0314\u0345"),
   (0x1FAA, "Ω\u0313\u0300\u0345|Ω\u0314\u0300\u0345|Ω\u0313\u0301\u0345"),
   (0x1FAD, "Ω\u0314\u0301\u0345|Ω\u0313\u0342\u0345|Ω\u0314\u0342\u0345|α\u0306"),
   (0x1FB1, "α\u0304|α\u0300\u0345|α\u0345|α\u0301\u0345"),
   (0x1FB6, "α\u0342|α\u0342\u0345|Α\u0306|Α\u0304|Α\u0300|Α\u0301|Α\u0345| \u0313"),
   (0x1FBF, " \u0313| \u0342| \u0308\u0342|η\u0300\u0345|η\u0345|η\u0301\u0345"),
   (0x1FC6, "η\u0342|η\u0342\u0345|Ε\u0300|Ε\u0301|Η\u0300|Η\u0301|Η\u0345"),
   (0x1FCD, " \u0313\u0300| \u0313\u0301| \u0313\u0342|ι\u0306|ι\u0304|ι\u0308\u0300"),
   (0x1FD3, "ι\u0308\u0301"), (0x1FD6, "ι\u0342|ι\u0308\u0342|Ι\u0306|Ι\u0304|Ι\u0300|Ι\u0301"),
   (0x1FDD, " \u0314\u0300| \u0314\u0301| \u0314\u0342|υ\u0306|υ\u0304|υ\u0308\u0300"),
   (0x1FE3, "υ\u0308\u0301|ρ\u0313|ρ\u0314|υ\u0342|υ\u0308\u0342|Υ\u0306|Υ\u0304"),
   (0x1FEA, "Υ\u0300|Υ\u0301|Ρ\u0314| \u0308\u0300| \u0308\u0301"),
   (0x1FF2, "ω\u0300\u0345|ω\u0345|ω\u0301\u0345"),
   (0x1FF6, "ω\u0342|ω\u0342\u0345|Ο\u0300|Ο\u0301|Ω\u0300|Ω\u0301|Ω\u0345| \u0301"),
   (0x1FFE, " \u0314"), (0x2017, " \u0333"), (0x2025, "..|..."), (0x2033, "′′|′′′"),
   (0x2036, "‵‵|‵‵‵"), (0x203C, "!!"), (0x203E, " \u0305"), (0x2047, "??|?!|!?"), (0x2057, "′′′′"),
   (0x20A8, "Rs"), (0x2100, "a/c|a/s"), (0x2103, "°C"), (0x2105, "c/o|c/u"), (0x2109, "°F"),
   (0x2116, "No"), (0x2120, "SM|TEL|TM"), (0x212B, "A\u030a"), (0x213B, "FAX"),
   (0x2150, "1⁄7|1⁄9|1⁄10|1⁄3|2⁄3|1⁄5|2⁄5|3⁄5|4⁄5|1⁄6|5⁄6|1⁄8|3⁄8|5⁄8|7⁄8|1⁄"),
   (0x2161, "II|III|IV"), (0x2165, "VI|VII|VIII|IX"), (0x216A, "XI|XII"), (0x2171, "ii|iii|iv"),
   (0x2175, "vi|vii|viii|ix"), (0x217A, "xi|xii"), (0x2189, "0⁄3"), (0x219A, "←\u0338|→\u0338"),
   (0x21AE, "↔\u0338"), (0x21CD, "⇐\u0338|⇔\u0338|⇒\u0338"), (0x2204, "∃\u0338"),
   (0x2209, "∈\u0338"), (0x220C, "∋\u0338"), (0x2224, "∣\u0338"), (0x2226, "∥\u0338"),
   (0x222C, "∫∫|∫∫∫"), (0x222F, "∮∮|∮∮∮"), (0x2241, "∼\u0338"), (0x2244, "≃\u0338"),
   (0x2247, "≅\u0338"), (0x2249, "≈\u0338"), (0x2260, "=\u0338"), (0x2262, "≡\u0338"),
   (0x226D, "≍\u0338|<\u0338|>\u0338|≤\u0338|≥\u0338"), (0x2274, "≲\u0338|≳\u0338"),
   (0x2278, "≶\u0338|≷\u0338"), (0x2280, "≺\u0338|≻\u0338"), (0x2284, "⊂\u0338|⊃\u0338"),
   (0x2288, "⊆\u0338|⊇\u0338"), (0x22AC, "⊢\u0338|⊨\u0338|⊩\u0338|⊫\u0338"),
   (0x22E0, "≼\u0338|≽\u0338|⊑\u0338|⊒\u0338"), (0x22EA, "⊲\u0338|⊳\u0338|⊴\u0338|⊵\u0338"),
   (0x2469, "10|11|12|13|14|15|16|17|18|19|20|(1)|(2)|(3)|(4)|(5)|(6)|(7)|(8)|(9)"),
   (0x247D, "(10)|(11)|(12)|(13)|(14)|(15)|(16)|(17)|(18)|(19)|(20)|1.|2.|3.|4.|5."),
   (0x248D, "6.|7.|8.|9.|10.|11.|12.|13.|14.|15.|16.|17.|18.|19.|20.|(a)|(b)|(c)|(d)"),
   (0x24A0, "(e)|(f)|(g)|(h)|(i)|(j)|(k)|(l)|(m)|(n)|(o)|(p)|(q)|(r)|(s)|(t)|(u)|(v)"),
   (0x24B2, "(w)|(x)|(y)|(z)"), (0x2A0C, "∫∫∫∫"), (0x2A74, "::=|==|==="), (0x2ADC, "⫝\u0338"),
   (0x304C, "か\u3099"), (0x304E, "き\u3099"), (0x3050, "く\u3099"), (0x3052, "け\u3099"),
   (0x3054, "こ\u3099"), (0x3056, "さ\u3099"), (0x3058, "し\u3099"), (0x305A, "す\u3099"),
   (0x305C, "せ\u3099"), (0x305E, "そ\u3099"), (0x3060, "た\u3099"), (0x3062, "ち\u3099"),
   (0x3065, "つ\u3099"), (0x3067, "て\u3099"), (0x3069, "と\u3099"), (0x3070, "は\u3099|は\u309a"),
   (0x3073, "ひ\u3099|ひ\u309a"), (0x3076, "ふ\u3099|ふ\u309a"), (0x3079, "へ\u3099|へ\u309a"),
   (0x307C, "ほ\u3099|ほ\u309a"), (0x3094, "う\u3099"), (0x309B, " \u3099| \u309a"),
   (0x309E, "ゝ\u3099|より"), (0x30AC, "カ\u3099"), (0x30AE, "キ\u3099"), (0x30B0, "ク\u3099"),
   (0x30B2, "ケ\u3099"), (0x30B4, "コ\u3099"), (0x30B6, "サ\u3099"), (0x30B8, "シ\u3099"),
   (0x30BA, "ス\u3099"), (0x30BC, "セ\u3099"), (0x30BE, "ソ\u3099"), (0x30C0, "タ\u3099"),
   (0x30C2, "チ\u3099"), (0x30C5, "ツ\u3099"), (0x30C7, "テ\u3099"), (0x30C9, "ト\u3099"),
   (0x30D0, "ハ\u3099|ハ\u309a"), (0x30D3, "ヒ\u3099|ヒ\u309a"), (0x30D6, "フ\u3099|フ\u309a"),
   (0x30D9, "ヘ\u3099|ヘ\u309a"), (0x30DC, "ホ\u3099|ホ\u309a"), (0x30F4, "ウ\u3099"),
   (0x30F7, "ワ\u3099|ヰ\u3099|ヱ\u3099|ヲ\u3099"), (0x30FE, "ヽ\u3099|コト"),
   (0x3200, "(ᄀ)|(ᄂ)|(ᄃ)|(ᄅ)|(ᄆ)|(ᄇ)|(ᄉ)|(ᄋ)|(ᄌ)|(ᄎ)|(ᄏ)|(ᄐ)|(ᄑ)|(ᄒ)|(가)|(나)|(다)"),
   (0x3211, "(라)|(마)|(바)|(사)|(아)|(자)|(차)|(카)|(타)|(파)|(하)|(주)|(오전)"),
   (0x321E, "(오후)"),
   (0x3220, "(一)|(二)|(三)|(四)|(五)|(六)|(七)|(八)|(九)|(十)|(月)|(火)|(水)|(木)|(金)|(土)|(日)|(株)"),
   (0x3232, "(有)|(社)|(名)|(特)|(財)|(祝)|(労)|(代)|(呼)|(学)|(監)|(企)|(資)|(協)|(祭)|(休)|(自)|(至)"),
   (0x3250, "PTE|21|22|23|24|25|26|27|28|29|30|31|32|33|34|35"),
   (0x326E, "가|나|다|라|마|바|사|아|자|차|카|타|파|하|참고|주의|우"),
   (0x32B1, "36|37|38|39|40|41|42|43|44|45|46|47|48|49|50|1月|2月|3月|4月|5月|6月|7月|8月|9月"),
   (0x32C9, "10月|11月|12月|Hg|erg|eV|LTD"),
   (0x32FF, "令和|アハ\u309aート|アルファ|アンヘ\u309aア|アール|イニンク\u3099|インチ|ウォン|エスクート\u3099|エーカー"),
   (0x3309, "オンス|オーム|カイリ|カラット|カロリー|カ\u3099ロン|カ\u3099ンマ|キ\u3099カ\u3099|キ\u3099ニー|キュリー"),
   (0x3313, "キ\u3099ルタ\u3099ー|キロ|キロク\u3099ラム|キロメートル|キロワット|ク\u3099ラム|ク\u3099ラムトン"),
   (0x331A, "クルセ\u3099イロ|クローネ|ケース|コルナ|コーホ\u309a|サイクル|サンチーム|シリンク\u3099|センチ|セント"),
   (0x3324, "タ\u3099ース|テ\u3099シ|ト\u3099ル|トン|ナノ|ノット|ハイツ|ハ\u309aーセント|ハ\u309aーツ"),
   (0x332D, "ハ\u3099ーレル|ヒ\u309aアストル|ヒ\u309aクル|ヒ\u309aコ|ヒ\u3099ル|ファラット\u3099|フィート"),
   (0x3334, "フ\u3099ッシェル|フラン|ヘクタール|ヘ\u309aソ|ヘ\u309aニヒ|ヘルツ|ヘ\u309aンス|ヘ\u309aーシ\u3099"),
   (0x333C, "ヘ\u3099ータ|ホ\u309aイント|ホ\u3099ルト|ホン|ホ\u309aント\u3099|ホール|ホーン|マイクロ|マイル|マッハ"),
   (0x3346, "マルク|マンション|ミクロン|ミリ|ミリハ\u3099ール|メカ\u3099|メカ\u3099トン|メートル|ヤート\u3099|ヤール"),
   (0x3350, "ユアン|リットル|リラ|ルヒ\u309aー|ルーフ\u3099ル|レム|レントケ\u3099ン|ワット|0点|1点|2点|3点|4点|5点"),
   (0x335E, "6点|7点|8点|9点|10点|11点|12点|13点|14点|15点|16点|17点|18点|19点|20点|21点|22点|23点|24点"),
   (0x3371, "hPa|da|AU|bar|oV|pc|dm|dm2|dm3|IU|平成|昭和|大正|明治|株式会社|pA|nA|μA|mA|kA|KB|MB"),
   (0x3387, "GB|cal|kcal|pF|nF|μF|μg|mg|kg|Hz|kHz|MHz|GHz|THz|μl|ml|dl|kl|fm|nm|μm"),
   (0x339C, "mm|cm|km|mm2|cm2|m2|km2|mm3|cm3|m3|km3|m∕s|m∕s2|Pa|kPa|MPa|GPa|rad"),
   (0x33AE, "rad∕s|rad∕s2|ps|ns|μs|ms|pV|nV|μV|mV|kV|MV|pW|nW|μW|mW|kW|MW|kΩ|MΩ|a.m."),
   (0x33C3, "Bq|cc|cd|C∕kg|Co.|dB|Gy|ha|HP|in|KK|KM|kt|lm|ln|log|lx|mb|mil|mol|PH"),
   (0x33D8, "p.m.|PPM|PR|sr|Sv|Wb|V∕m|A∕m|1日|2日|3日|4日|5日|6日|7日|8日|9日|10日|11日|12日|13日"),
   (0x33ED, "14日|15日|16日|17日|18日|19日|20日|21日|22日|23日|24日|25日|26日|27日|28日|29日|30日|31日"),
   (0x33FF, "gal"), (0xFB00, "ff|fi|fl|ffi|ffl|st|st"), (0xFB13, "մն|մե|մի|վն|մխ"),
   (0xFB1D, "\u05d9\u05b4"), (0xFB1F, "\u05f2\u05b7"),
   (0xFB2A, "\u05e9\u05c1|\u05e9\u05c2|\u05e9\u05bc\u05c1|\u05e9\u05bc\u05c2"),
   (0xFB2E, "\u05d0\u05b7|\u05d0\u05b8|\u05d0\u05bc|\u05d1\u05bc|\u05d2\u05bc"),
   (0xFB33, "\u05d3\u05bc|\u05d4\u05bc|\u05d5\u05bc|\u05d6\u05bc"),
   (0xFB38, "\u05d8\u05bc|\u05d9\u05bc|\u05da\u05bc|\u05db\u05bc|\u05dc\u05bc"),
   (0xFB3E, "\u05de\u05bc"), (0xFB40, "\u05e0\u05bc|\u05e1\u05bc"),
   (0xFB43, "\u05e3\u05bc|\u05e4\u05bc"),
   (0xFB46, "\u05e6\u05bc|\u05e7\u05bc|\u05e8\u05bc|\u05e9\u05bc|\u05ea\u05bc"),
   (0xFB4B, "\u05d5\u05b9|\u05d1\u05bf|\u05db\u05bf|\u05e4\u05bf|\u05d0\u05dc"),
   (0xFBA4, "\u06d5\u0654|\u06d5\u0654"), (0xFBB0, "\u06d2\u0654|\u06d2\u0654"),
   (0xFBDD, "\u06c7\u0674"), (0xFBEA, "\u064a\u0654\u0627|\u064a\u0654\u0627|\u064a\u0654\u06d5"),
   (0xFBED, "\u064a\u0654\u06d5|\u064a\u0654\u0648|\u064a\u0654\u0648"),
   (0xFBF0, "\u064a\u0654\u06c7|\u064a\u0654\u06c7|\u064a\u0654\u06c6"),
   (0xFBF3, "\u064a\u0654\u06c6|\u064a\u0654\u06c8|\u064a\u0654\u06c8"),
   (0xFBF6, "\u064a\u0654\u06d0|\u064a\u0654\u06d0|\u064a\u0654\u06d0"),
   (0xFBF9, "\u064a\u0654\u0649|\u064a\u0654\u0649|\u064a\u0654\u0649"),
   (0xFC00, "\u064a\u0654\u062c|\u064a\u0654\u062d|\u064a\u0654\u0645"),
   (0xFC03, "\u064a\u0654\u0649|\u064a\u0654\u064a|\u0628\u062c|\u0628\u062d"),
   (0xFC07, "\u0628\u062e|\u0628\u0645|\u0628\u0649|\u0628\u064a|\u062a\u062c"),
   (0xFC0C, "\u062a\u062d|\u062a\u062e|\u062a\u0645|\u062a\u0649|\u062a\u064a"),
   (0xFC11, "\u062b\u062c|\u062b\u0645|\u062b\u0649|\u062b\u064a|\u062c\u062d"),
   (0xFC16, "\u062c\u0645|\u062d\u062c|\u062d\u0645|\u062e\u062c|\u062e\u062d"),
   (0xFC1B, "\u062e\u0645|\u0633\u062c|\u0633\u062d|\u0633\u062e|\u0633\u0645"),
   (0xFC20, "\u0635\u062d|\u0635\u0645|\u0636\u062c|\u0636\u062d|\u0636\u062e"),
   (0xFC25, "\u0636\u0645|\u0637\u062d|\u0637\u0645|\u0638\u0645|\u0639\u062c"),
   (0xFC2A, "\u0639\u0645|\u063a\u062c|\u063a\u0645|\u0641\u062c|\u0641\u062d"),
   (0xFC2F, "\u0641\u062e|\u0641\u0645|\u0641\u0649|\u0641\u064a|\u0642\u062d"),
   (0xFC34, "\u0642\u0645|\u0642\u0649|\u0642\u064a|\u0643\u0627|\u0643\u062c"),
   (0xFC39, "\u0643\u062d|\u0643\u062e|\u0643\u0644|\u0643\u0645|\u0643\u0649"),
   (0xFC3E, "\u0643\u064a|\u0644\u062c|\u0644\u062d|\u0644\u062e|\u0644\u0645"),
   (0xFC43, "\u0644\u0649|\u0644\u064a|\u0645\u062c|\u0645\u062d|\u0645\u062e"),
   (0xFC48, "\u0645\u0645|\u0645\u0649|\u0645\u064a|\u0646\u062c|\u0646\u062d"),
   (0xFC4D, "\u0646\u062e|\u0646\u0645|\u0646\u0649|\u0646\u064a|\u0647\u062c"),
   (0xFC52, "\u0647\u0645|\u0647\u0649|\u0647\u064a|\u064a\u062c|\u064a\u062d"),
   (0xFC57, "\u064a\u062e|\u064a\u0645|\u064a\u0649|\u064a\u064a|\u0630\u0670"),
   (0xFC5C, "\u0631\u0670|\u0649\u0670| \u064c\u0651| \u064d\u0651| \u064e\u0651"),
   (0xFC61, " \u064f\u0651| \u0650\u0651| \u0651\u0670|\u064a\u0654\u0631"),
   (0xFC65, "\u064a\u0654\u0632|\u064a\u0654\u0645|\u064a\u0654\u0646"),
   (0xFC68, "\u064a\u0654\u0649|\u064a\u0654\u064a|\u0628\u0631|\u0628\u0632"),
   (0xFC6C, "\u0628\u0645|\u0628\u0646|\u0628\u0649|\u0628\u064a|\u062a\u0631"),
   (0xFC71, "\u062a\u0632|\u062a\u0645|\u062a\u0646|\u062a\u0649|\u062a\u064a"),
   (0xFC76, "\u062b\u0631|\u062b\u0632|\u062b\u0645|\u062b\u0646|\u062b\u0649"),
   (0xFC7B, "\u062b\u064a|\u0641\u0649|\u0641\u064a|\u0642\u0649|\u0642\u064a"),
   (0xFC80, "\u0643\u0627|\u0643\u0644|\u0643\u0645|\u0643\u0649|\u0643\u064a"),
   (0xFC85, "\u0644\u0645|\u0644\u0649|\u0644\u064a|\u0645\u0627|\u0645\u0645"),
   (0xFC8A, "\u0646\u0631|\u0646\u0632|\u0646\u0645|\u0646\u0646|\u0646\u0649"),
   (0xFC8F, "\u0646\u064a|\u0649\u0670|\u064a\u0631|\u064a\u0632|\u064a\u0645"),
   (0xFC94, "\u064a\u0646|\u064a\u0649|\u064a\u064a|\u064a\u0654\u062c"),
   (0xFC98, "\u064a\u0654\u062d|\u064a\u0654\u062e|\u064a\u0654\u0645"),
   (0xFC9B, "\u064a\u0654\u0647|\u0628\u062c|\u0628\u062d|\u0628\u062e|\u0628\u0645"),
   (0xFCA0, "\u0628\u0647|\u062a\u062c|\u062a\u062d|\u062a\u062e|\u062a\u0645"),
   (0xFCA5, "\u062a\u0647|\u062b\u0645|\u062c\u062d|\u062c\u0645|\u062d\u062c"),
   (0xFCAA, "\u062d\u0645|\u062e\u062c|\u062e\u0645|\u0633\u062c|\u0633\u062d"),
   (0xFCAF, "\u0633\u062e|\u0633\u0645|\u0635\u062d|\u0635\u062e|\u0635\u0645"),
   (0xFCB4, "\u0636\u062c|\u0636\u062d|\u0636\u062e|\u0636\u0645|\u0637\u062d"),
   (0xFCB9, "\u0638\u0645|\u0639\u062c|\u0639\u0645|\u063a\u062c|\u063a\u0645"),
   (0xFCBE, "\u0641\u062c|\u0641\u062d|\u0641\u062e|\u0641\u0645|\u0642\u062d"),
   (0xFCC3, "\u0642\u0645|\u0643\u062c|\u0643\u062d|\u0643\u062e|\u0643\u0644"),
   (0xFCC8, "\u0643\u0645|\u0644\u062c|\u0644\u062d|\u0644\u062e|\u0644\u0645"),
   (0xFCCD, "\u0644\u0647|\u0645\u062c|\u0645\u062d|\u0645\u062e|\u0645\u0645"),
   (0xFCD2, "\u0646\u062c|\u0646\u062d|\u0646\u062e|\u0646\u0645|\u0646\u0647"),
   (0xFCD7, "\u0647\u062c|\u0647\u0645|\u0647\u0670|\u064a\u062c|\u064a\u062d"),
   (0xFCDC, "\u064a\u062e|\u064a\u0645|\u064a\u0647|\u064a\u0654\u0645"),
   (0xFCE0, "\u064a\u0654\u0647|\u0628\u0645|\u0628\u0647|\u062a\u0645|\u062a\u0647"),
   (0xFCE5, "\u062b\u0645|\u062b\u0647|\u0633\u0645|\u0633\u0647|\u0634\u0645"),
   (0xFCEA, "\u0634\u0647|\u0643\u0644|\u0643\u0645|\u0644\u0645|\u0646\u0645"),
   (0xFCEF, "\u0646\u0647|\u064a\u0645|\u064a\u0647|\u0640\u064e\u0651"),
   (0xFCF3, "\u0640\u064f\u0651|\u0640\u0650\u0651|\u0637\u0649|\u0637\u064a"),
   (0xFCF7, "\u0639\u0649|\u0639\u064a|\u063a\u0649|\u063a\u064a|\u0633\u0649"),
   (0xFCFC, "\u0633\u064a|\u0634\u0649|\u0634\u064a|\u062d\u0649|\u062d\u064a"),
   (0xFD01, "\u062c\u0649|\u062c\u064a|\u062e\u0649|\u062e\u064a|\u0635\u0649"),
   (0xFD06, "\u0635\u064a|\u0636\u0649|\u0636\u064a|\u0634\u062c|\u0634\u062d"),
   (0xFD0B, "\u0634\u062e|\u0634\u0645|\u0634\u0631|\u0633\u0631|\u0635\u0631"),
   (0xFD10, "\u0636\u0631|\u0637\u0649|\u0637\u064a|\u0639\u0649|\u0639\u064a"),
   (0xFD15, "\u063a\u0649|\u063a\u064a|\u0633\u0649|\u0633\u064a|\u0634\u0649"),
   (0xFD1A, "\u0634\u064a|\u062d\u0649|\u062d\u064a|\u062c\u0649|\u062c\u064a"),
   (0xFD1F, "\u062e\u0649|\u062e\u064a|\u0635\u0649|\u0635\u064a|\u0636\u0649"),
   (0xFD24, "\u0636\u064a|\u0634\u062c|\u0634\u062d|\u0634\u062e|\u0634\u0645"),
   (0xFD29, "\u0634\u0631|\u0633\u0631|\u0635\u0631|\u0636\u0631|\u0634\u062c"),
   (0xFD2E, "\u0634\u062d|\u0634\u062e|\u0634\u0645|\u0633\u0647|\u0634\u0647"),
   (0xFD33, "\u0637\u0645|\u0633\u062c|\u0633\u062d|\u0633\u062e|\u0634\u062c"),
   (0xFD38, "\u0634\u062d|\u0634\u062e|\u0637\u0645|\u0638\u0645|\u0627\u064b"),
   (0xFD3D, "\u0627\u064b"), (0xFD50, "\u062a\u062c\u0645|\u062a\u062d\u062c|\u062a\u062d\u062c"),
   (0xFD53, "\u062a\u062d\u0645|\u062a\u062e\u0645|\u062a\u0645\u062c"),
   (0xFD56, "\u062a\u0645\u062d|\u062a\u0645\u062e|\u062c\u0645\u062d"),
   (0xFD59, "\u062c\u0645\u062d|\u062d\u0645\u064a|\u062d\u0645\u0649"),
   (0xFD5C, "\u0633\u062d\u062c|\u0633\u062c\u062d|\u0633\u062c\u0649"),
   (0xFD5F, "\u0633\u0645\u062d|\u0633\u0645\u062d|\u0633\u0645\u062c"),
   (0xFD62, "\u0633\u0645\u0645|\u0633\u0645\u0645|\u0635\u062d\u062d"),
   (0xFD65, "\u0635\u062d\u062d|\u0635\u0645\u0645|\u0634\u062d\u0645"),
   (0xFD68, "\u0634\u062d\u0645|\u0634\u062c\u064a|\u0634\u0645\u062e"),
   (0xFD6B, "\u0634\u0645\u062e|\u0634\u0645\u0645|\u0634\u0645\u0645"),
   (0xFD6E, "\u0636\u062d\u0649|\u0636\u062e\u0645|\u0636\u062e\u0645"),
   (0xFD71, "\u0637\u0645\u062d|\u0637\u0645\u062d|\u0637\u0645\u0645"),
   (0xFD74, "\u0637\u0645\u064a|\u0639\u062c\u0645|\u0639\u0645\u0645"),
   (0xFD77, "\u0639\u0645\u0645|\u0639\u0645\u0649|\u063a\u0645\u0645"),
   (0xFD7A, "\u063a\u0645\u064a|\u063a\u0645\u0649|\u0641\u062e\u0645"),
   (0xFD7D, "\u0641\u062e\u0645|\u0642\u0645\u062d|\u0642\u0645\u0645"),
   (0xFD80, "\u0644\u062d\u0645|\u0644\u062d\u064a|\u0644\u062d\u0649"),
   (0xFD83, "\u0644\u062c\u062c|\u0644\u062c\u062c|\u0644\u062e\u0645"),
   (0xFD86, "\u0644\u062e\u0645|\u0644\u0645\u062d|\u0644\u0645\u062d"),
   (0xFD89, "\u0645\u062d\u062c|\u0645\u062d\u0645|\u0645\u062d\u064a"),
   (0xFD8C, "\u0645\u062c\u062d|\u0645\u062c\u0645|\u0645\u062e\u062c"),
   (0xFD8F, "\u0645\u062e\u0645"),
   (0xFD92, "\u0645\u062c\u062e|\u0647\u0645\u062c|\u0647\u0645\u0645"),
   (0xFD95, "\u0646\u062d\u0645|\u0646\u062d\u0649|\u0646\u062c\u0645"),
   (0xFD98, "\u0646\u062c\u0645|\u0646\u062c\u0649|\u0646\u0645\u064a"),
   (0xFD9B, "\u0646\u0645\u0649|\u064a\u0645\u0645|\u064a\u0645\u0645"),
   (0xFD9E, "\u0628\u062e\u064a|\u062a\u062c\u064a|\u062a\u062c\u0649"),
   (0xFDA1, "\u062a\u062e\u064a|\u062a\u062e\u0649|\u062a\u0645\u064a"),
   (0xFDA4, "\u062a\u0645\u0649|\u062c\u0645\u064a|\u062c\u062d\u0649"),
   (0xFDA7, "\u062c\u0645\u0649|\u0633\u062e\u0649|\u0635\u062d\u064a"),
   (0xFDAA, "\u0634\u062d\u064a|\u0636\u062d\u064a|\u0644\u062c\u064a"),
   (0xFDAD, "\u0644\u0645\u064a|\u064a\u062d\u064a|\u064a\u062c\u064a"),
   (0xFDB0, "\u064a\u0645\u064a|\u0645\u0645\u064a|\u0642\u0645\u064a"),
   (0xFDB3, "\u0646\u062d\u064a|\u0642\u0645\u062d|\u0644\u062d\u0645"),
   (0xFDB6, "\u0639\u0645\u064a|\u0643\u0645\u064a|\u0646\u062c\u062d"),
   (0xFDB9, "\u0645\u062e\u064a|\u0644\u062c\u0645|\u0643\u0645\u0645"),
   (0xFDBC, "\u0644\u062c\u0645|\u0646\u062c\u062d|\u062c\u062d\u064a"),
   (0xFDBF, "\u062d\u062c\u064a|\u0645\u062c\u064a|\u0641\u0645\u064a"),
   (0xFDC2, "\u0628\u062d\u064a|\u0643\u0645\u0645|\u0639\u062c\u0645"),
   (0xFDC5, "\u0635\u0645\u0645|\u0633\u062e\u064a|\u0646\u062c\u064a"),
   (0xFDF0, "\u0635\u0644\u06d2|\u0642\u0644\u06d2|\u0627\u0644\u0644\u0647"),
   (0xFDF3, "\u0627\u0643\u0628\u0631|\u0645\u062d\u0645\u062f"),
   (0xFDF5, "\u0635\u0644\u0639\u0645|\u0631\u0633\u0648\u0644"),
   (0xFDF7, "\u0639\u0644\u064a\u0647|\u0648\u0633\u0644\u0645|\u0635\u0644\u0649"),
   (0xFDFA, "\u0635\u0644\u0649 \u0627\u0644\u0644\u0647 "
     ++ "\u0639\u0644\u064a\u0647 \u0648\u0633\u0644\u0645"),
   (0xFDFB, "\u062c\u0644 \u062c\u0644\u0627\u0644\u0647|\u0631\u06cc\u0627\u0644"),
   (0xFE19, "..."), (0xFE30, ".."), (0xFE49, " \u0305| \u0305| \u0305| \u0305"),
   (0xFE70, " \u064b|\u0640\u064b| \u064c"), (0xFE74, " \u064d"),
   (0xFE76, " \u064e|\u0640\u064e| \u064f|\u0640\u064f| \u0650|\u0640\u0650| \u0651"),
   (0xFE7D, "\u0640\u0651| \u0652|\u0640\u0652"),
   (0xFE81, "\u0627\u0653|\u0627\u0653|\u0627\u0654|\u0627\u0654|\u0648\u0654"),
   (0xFE86, "\u0648\u0654|\u0627\u0655|\u0627\u0655|\u064a\u0654|\u064a\u0654"),
   (0xFE8B, "\u064a\u0654|\u064a\u0654"),
   (0xFEF5, "\u0644\u0627\u0653|\u0644\u0627\u0653|\u0644\u0627\u0654"),
   (0xFEF8, "\u0644\u0627\u0654|\u0644\u0627\u0655|\u0644\u0627\u0655|\u0644\u0627"),
   (0xFEFC, "\u0644\u0627"), (0xFFE3, " \u0304"), (0x1109A, "𑂚"), (0x1109C, "𑂜"),
   (0x110AB, "𑂫"), (0x1112E, "𑄮|𑄯"), (0x1134B, "𑍋|𑍌"), (0x114BB, "𑒻|𑒼"), (0x114BE, "𑒾"),
   (0x115BA, "𑖺|𑖻"), (0x11938, "𑤸"), (0x1D15E, "𝅗𝅥|𝅘𝅥|𝅘𝅥𝅮|𝅘𝅥𝅯|𝅘𝅥𝅰|𝅘𝅥𝅱|𝅘𝅥𝅲"),
   (0x1D1BB, "𝆹𝅥|𝆺𝅥|𝆹𝅥𝅮|𝆺𝅥𝅮|𝆹𝅥𝅯|𝆺𝅥𝅯"), (0x1F100, "0.|0,|1,|2,|3,|4,|5,|6,|7,|8,|9,"),
   (0x1F110, "(A)|(B)|(C)|(D)|(E)|(F)|(G)|(H)|(I)|(J)|(K)|(L)|(M)|(N)|(O)|(P)|(Q)|(R)"),
   (0x1F122, "(S)|(T)|(U)|(V)|(W)|(X)|(Y)|(Z)|〔S〕"), (0x1F12D, "CD|WZ"),
   (0x1F14A, "HV|MV|SD|SS|PPV|WC"), (0x1F16A, "MC|MD|MR"), (0x1F190, "DJ"), (0x1F200, "ほか|ココ"),
   (0x1F213, "テ\u3099"), (0x1F240, "〔本〕|〔三〕|〔二〕|〔安〕|〔点〕|〔打〕|〔盗〕|〔勝〕|〔敗〕")]

/-- The parts between bars; the open part is `part`, reversed. -/
def betweenBars (part : List Char) : List Char → List (List Char)
  | [] => [part.reverse]
  | c :: rest =>
    if c == '|' then part.reverse :: betweenBars [] rest else betweenBars (c :: part) rest

/-- All entries: the first code point, and what it and the following ones stand for. -/
def forms : List (Nat × List (List Char)) :=
  singleForms.map (fun (first, images) => (first, images.toList.map fun c => [c]))
    ++ sequenceForms.map fun (first, images) => (first, betweenBars [] images.toList)

/-- What a character stands for, completely taken apart, if it stands for anything else. -/
def form? (c : Char) : Option (List Char) :=
  forms.findSome? fun (first, images) => if first ≤ c.toNat then images[c.toNat - first]? else none

end IssueBoard.Text.Normal
