import C4Diagram.Text.Lines
import C4Diagram.Url.Domain.Kept

/-!
Mapping: what the characters of a domain are written as before anything else is done. Capitals
become small letters, characters of compatibility become what they stand for, and some go away.
-/

namespace C4Diagram.Domain

/-- Runs of characters that are written as one other: the first code, and the others in order. -/
def runs : List (Nat × String) :=
  [(0xAA, "a"), (0xB2, "23"), (0xB5, "μ"), (0xB9, "1o"), (0xC0, "àáâãäåæçèéêëìíîïðñòóôõö"),
   (0xD8, "øùúûüýþ"), (0x18A, "ɗƌ"), (0x18E, "ǝəɛƒ"), (0x193, "ɠɣ"), (0x196, "ɩɨƙ"), (0x19C, "ɯɲ"),
   (0x19F, "ɵơ"), (0x1B2, "ʋƴ"), (0x1B8, "ƹ"), (0x1BC, "ƽ"), (0x1F7, "ƿǹ"), (0x23A, "ⱥȼ"),
   (0x23D, "ƚⱦ"), (0x244, "ʉʌɇ"), (0x2B0, "hɦjrɹɻʁwy"), (0x2E0, "ɣlsxʕ"), (0x340, "\u0300\u0301"),
   (0x37E, ";ϳ"), (0x386, "ά·έήί"), (0x392, "βγδεζηθικλμνξοπρ"), (0x3A3, "στυφχψωϊϋ"),
   (0x3CF, "ϗβθυύϋφπ"), (0x3F1, "ρσ"), (0x3F4, "θε"), (0x3FA, "ϻ"),
   (0x3FD, "ͻͼͽѐёђѓєѕіїјљњћќѝўџабвгдежзийклмнопрстуфхцчшщъыьэюя"),
   (0x531, "աբգդեզէըթժիլխծկհձղճմյնշոչպջռսվտրցւփքօֆ"), (0xF0C, "་"),
   (0x10A0, "ⴀⴁⴂⴃⴄⴅⴆⴇⴈⴉⴊⴋⴌⴍⴎⴏⴐⴑⴒⴓⴔⴕⴖⴗⴘⴙⴚⴛⴜⴝⴞⴟⴠⴡⴢⴣⴤⴥ"), (0x10C7, "ⴧ"), (0x10CD, "ⴭ"), (0x10FC, "ნ"),
   (0x13F8, "ᏰᏱᏲᏳᏴᏵ"), (0x1C80, "вдосттъѣꙋ\u1c8a"),
   (0x1C90, "აბგდევზთიკლმნოპჟრსტუფქღყშჩცძწჭხჯჰჱჲჳჴჵჶჷჸჹჺ"), (0x1CBD, "ჽჾჿ"), (0x1D2C, "aæb"),
   (0x1D30, "deǝghijklmn"), (0x1D3C, "oȣprtuwaɐɑᴂbdeəɛɜg"), (0x1D4F, "kmŋoɔᴖᴗptuᴝɯvᴥβγδφχiruvβγρφχ"),
   (0x1D78, "н"), (0x1D9B, "ɒcɕðɜfɟɡɥɨɩɪᵻʝɭᶅʟɱɰɲɳɴɵɸʂʃƫʉʊᴜʋʌzʐʑʒθ"), (0x1E9B, "ṡ"),
   (0x1F08, "ἀἁἂἃἄἅἆἇ"), (0x1F18, "ἐἑἒἓἔἕ"), (0x1F28, "ἠἡἢἣἤἥἦἧ"), (0x1F38, "ἰἱἲἳἴἵἶἷ"),
   (0x1F48, "ὀὁὂὃὄὅ"), (0x1F68, "ὠὡὢὣὤὥὦὧ"), (0x1FB8, "ᾰᾱὰά"), (0x1FBE, "ι"), (0x1FC8, "ὲέὴή"),
   (0x1FD3, "ΐ"), (0x1FD8, "ῐῑὶί"), (0x1FE3, "ΰ"), (0x1FE8, "ῠῡὺύῥ"), (0x1FEF, "\x60"),
   (0x1FF8, "ὸόὼώ"), (0x2011, "‐"), (0x2070, "0i"), (0x2074, "456789+−=()n0123456789+−=()"),
   (0x2090, "aeoxəhklmnpst"), (0x2102, "c"), (0x2107, "ɛ"), (0x210A, "ghhhhħiill"), (0x2115, "n"),
   (0x2119, "pqrrr"), (0x212B, "åbc"), (0x212F, "eefⅎmo\u05d0\u05d1\u05d2\u05d3i"), (0x213C, "πγγπ∑"),
   (0x2145, "ddeij"), (0x2160, "i"), (0x2164, "v"), (0x2169, "x"), (0x216C, "lcdmi"), (0x2174, "v"),
   (0x2179, "x"), (0x217C, "lcdm"), (0x2183, "ↄ"), (0x2329, "〈〉"), (0x2460, "123456789"),
   (0x24B6, "abcdefghijklmnopqrstuvwxyzabcdefghijklmnopqrstuvwxyz0"),
   (0x2C00, "ⰰⰱⰲⰳⰴⰵⰶⰷⰸⰹⰺⰻⰼⰽⰾⰿⱀⱁⱂⱃⱄⱅⱆⱇⱈⱉⱊⱋⱌⱍⱎⱏⱐⱑⱒⱓⱔⱕⱖⱗⱘⱙⱚⱛⱜⱝⱞⱟ"), (0x2C63, "ᵽɽ"), (0x2C6E, "ɱɐɒ"),
   (0x2C72, "ⱳ"), (0x2C75, "ⱶ"), (0x2C7C, "jvȿɀⲁ"), (0x2CF2, "ⳳ"), (0x2D6F, "ⵡ"), (0x2E9F, "母"),
   (0x2EF3, "龟"),
   (0x2F00, "一丨丶丿乙亅二亠人儿入八冂冖冫几凵刀力勹匕匚匸十卜卩厂厶又口囗土士夂夊夕大女子"),
   (0x2F27, "宀寸小尢尸屮山巛工己巾干幺广廴廾弋弓彐彡彳心戈戶手支攴文斗斤方无日曰月木欠止歹"),
   (0x2F4E, "殳毋比毛氏气水火爪父爻爿片牙牛犬玄玉瓜瓦甘生用田疋疒癶白皮皿目矛矢石示禸禾穴立"),
   (0x2F75, "竹米糸缶网羊羽老而耒耳聿肉臣自至臼舌舛舟艮色艸虍虫血行衣襾見角言谷豆豕豸貝赤走"),
   (0x2F9C, "足身車辛辰辵邑酉釆里金長門阜隶隹雨靑非面革韋韭音頁風飛食首香馬骨高髟鬥鬯鬲鬼魚"),
   (0x2FC3, "鳥鹵鹿麥麻黃黍黑黹黽鼎鼓鼠鼻齊齒龍龜龠"), (0x3002, "."), (0x3039, "卄卅"),
   (0x3131, "ᄀᄁᆪᄂᆬᆭᄃᄄᄅᆰᆱᆲᆳᆴᆵᄚᄆᄇᄈᄡᄉᄊᄋᄌᄍᄎᄏᄐᄑ하ᅢᅣᅤᅥᅦᅧᅨᅩᅪᅫᅬᅭᅮᅯᅰᅱᅲᅳᅴᅵ"),
   (0x3165, "ᄔᄕᇇᇈᇌᇎᇓᇗᇙᄜᇝᇟᄝᄞᄠᄢᄣᄧᄩᄫᄬᄭᄮᄯᄲᄶᅀᅇᅌᇱᇲᅗᅘᅙᆄᆅᆈᆑᆒᆔᆞᆡ"),
   (0x3192, "一二三四上中下甲乙丙丁天地人"), (0x3244, "問幼文箏"),
   (0x3260, "ᄀᄂᄃᄅᄆᄇᄉᄋᄌᄎᄏᄐᄑᄒ가나다라마바사아자차카타파하"),
   (0x3281, "二三四五六七八九十月火水木金土日株有社名特財祝労秘男女適優印注項休写正上中下左"),
   (0x32A8, "右医宗学監企資協夜"),
   (0x32D0, "アイウエオカキクケコサシスセソタチツテトナニヌネノハヒフヘホマミムメモヤユヨラ"),
   (0x32F7, "リルレロワヰヱヲ"), (0xA69D, "ь"), (0xA7AB, "ɜɡɬɪ"), (0xA7B0, "ʞʇʝꭓꞵ"), (0xA7C5, "ʂᶎꟈ"),
   (0xA7F1, "scfqꟶ"), (0xA7F8, "ħœ"), (0xAB5C, "ꜧꬷɫꭒ"), (0xAB69, "ʍ"),
   (0xAB70, "ᎠᎡᎢᎣᎤᎥᎦᎧᎨᎩᎪᎫᎬᎭᎮᎯᎰᎱᎲᎳᎴᎵᎶᎷᎸᎹᎺᎻᎼᎽᎾᎿᏀᏁᏂᏃᏄᏅᏆᏇᏈᏉᏊᏋᏌᏍᏎᏏᏐᏑᏒᏓᏔᏕᏖᏗᏘᏙᏚᏛᏜᏝᏞᏟᏠᏡᏢᏣᏤᏥᏦᏧᏨᏩᏪᏫᏬᏭ"),
   (0xABBE, "ᏮᏯ"),
   (0xF900, "豈更車賈滑串句龜龜契金喇奈懶癩羅蘿螺裸邏樂洛烙珞落酪駱亂卵欄爛蘭鸞嵐濫藍襤拉臘"),
   (0xF927, "蠟廊朗浪狼郎來冷勞擄櫓爐盧老蘆虜路露魯鷺碌祿綠菉錄鹿論壟弄籠聾牢磊賂雷壘屢樓淚"),
   (0xF94E, "漏累縷陋勒肋凜凌稜綾菱陵讀拏樂諾丹寧怒率異北磻便復不泌數索參塞省葉說殺辰沈拾若"),
   (0xF975, "掠略亮兩凉梁糧良諒量勵呂女廬旅濾礪閭驪麗黎力曆歷轢年憐戀撚漣煉璉秊練聯輦蓮連鍊"),
   (0xF99C, "列劣咽烈裂說廉念捻殮簾獵令囹寧嶺怜玲瑩羚聆鈴零靈領例禮醴隸惡了僚寮尿料樂燎療蓼"),
   (0xF9C3, "遼龍暈阮劉杻柳流溜琉留硫紐類六戮陸倫崙淪輪律慄栗率隆利吏履易李梨泥理痢罹裏裡里"),
   (0xF9EA, "離匿溺吝燐璘藺隣鱗麟林淋臨立笠粒狀炙識什茶刺切度拓糖宅洞暴輻行降見廓兀嗀"),
   (0xFA15, "凞猪益礼神祥福靖精羽"), (0xFA25, "逸都"),
   (0xFA2A, "飯飼館鶴郞隷侮僧免勉勤卑喝嘆器塀墨層屮悔慨憎懲敏既暑梅海渚漢煮爫琢碑社祉祈祐祖"),
   (0xFA51, "祝禍禎穀突節練縉繁署者臭艹艹著褐視謁謹賓贈辶逸難響頻恵𤋮舘"),
   (0xFA70, "並况全侀充冀勇勺喝啕喙嗢塚墳奄奔婢嬨廒廙彩徭惘慎愈憎慠懲戴揄搜摒敖晴朗望杖歹殺"),
   (0xFA97, "流滛滋漢瀞煮瞧爵犯猪瑱甆画瘝瘟益盛直睊着磌窱節类絛練缾者荒華蝹襁覆視調諸請謁諾"),
   (0xFABE, "諭謹變贈輸遲醙鉶陼難靖韛響頋頻鬒龜𢡊𢡄𣏕㮝䀘䀹𥉉𥳐𧻓齃龎"),
   (0xFB20, "\u05e2\u05d0\u05d3\u05d4\u05db\u05dc\u05dd\u05e8\u05ea+"),
   (0xFB50, "\u0671\u0671\u067b\u067b\u067b\u067b\u067e\u067e\u067e\u067e\u0680\u0680\u0680"),
   (0xFB5D, "\u0680\u067a\u067a\u067a\u067a\u067f\u067f\u067f\u067f\u0679\u0679\u0679\u0679"),
   (0xFB6A, "\u06a4\u06a4\u06a4\u06a4\u06a6\u06a6\u06a6\u06a6\u0684\u0684\u0684\u0684\u0683"),
   (0xFB77, "\u0683\u0683\u0683\u0686\u0686\u0686\u0686\u0687\u0687\u0687\u0687\u068d\u068d"),
   (0xFB84, "\u068c\u068c\u068e\u068e\u0688\u0688\u0698\u0698\u0691\u0691\u06a9\u06a9\u06a9"),
   (0xFB91, "\u06a9\u06af\u06af\u06af\u06af\u06b3\u06b3\u06b3\u06b3\u06b1\u06b1\u06b1\u06b1"),
   (0xFB9E, "\u06ba\u06ba\u06bb\u06bb\u06bb\u06bb\u06c0\u06c0\u06c1\u06c1\u06c1\u06c1\u06be"),
   (0xFBAB, "\u06be\u06be\u06be\u06d2\u06d2\u06d3\u06d3"),
   (0xFBD3, "\u06ad\u06ad\u06ad\u06ad\u06c7\u06c7\u06c6\u06c6\u06c8\u06c8"),
   (0xFBDE, "\u06cb\u06cb\u06c5\u06c5\u06c9\u06c9\u06d0\u06d0\u06d0\u06d0\u0649\u0649"),
   (0xFBFC, "\u06cc\u06cc\u06cc\u06cc"), (0xFE10, ",、"), (0xFE14, ";!"), (0xFE17, "〖〗"),
   (0xFE31, "—–__()\x7b\x7d〔〕【】《》〈〉「」『』"), (0xFE4D, "___,、"), (0xFE54, ";"),
   (0xFE57, "!—()\x7b\x7d〔〕"), (0xFE60, "&*+-"), (0xFE66, "="), (0xFE69, "$"),
   (0xFE80, "\u0621\u0622\u0622\u0623\u0623\u0624\u0624\u0625\u0625\u0626\u0626\u0626\u0626"),
   (0xFE8D, "\u0627\u0627\u0628\u0628\u0628\u0628\u0629\u0629\u062a\u062a\u062a\u062a\u062b"),
   (0xFE9A, "\u062b\u062b\u062b\u062c\u062c\u062c\u062c\u062d\u062d\u062d\u062d\u062e\u062e"),
   (0xFEA7, "\u062e\u062e\u062f\u062f\u0630\u0630\u0631\u0631\u0632\u0632\u0633\u0633\u0633"),
   (0xFEB4, "\u0633\u0634\u0634\u0634\u0634\u0635\u0635\u0635\u0635\u0636\u0636\u0636\u0636"),
   (0xFEC1, "\u0637\u0637\u0637\u0637\u0638\u0638\u0638\u0638\u0639\u0639\u0639\u0639\u063a"),
   (0xFECE, "\u063a\u063a\u063a\u0641\u0641\u0641\u0641\u0642\u0642\u0642\u0642\u0643\u0643"),
   (0xFEDB, "\u0643\u0643\u0644\u0644\u0644\u0644\u0645\u0645\u0645\u0645\u0646\u0646\u0646"),
   (0xFEE8, "\u0646\u0647\u0647\u0647\u0647\u0648\u0648\u0649\u0649\u064a\u064a\u064a\u064a"),
   (0xFF01, "!\""), (0xFF07, "'()*+,-."), (0xFF10, "0123456789"),
   (0xFF21, "abcdefghijklmnopqrstuvwxyz"), (0xFF3F, "_\x60abcdefghijklmnopqrstuvwxyz\x7b"),
   (0xFF5D, "\x7d~⦅⦆.「」、・ヲァィゥェォャュョッーアイウエオカキクケコサシスセソタチツテト"),
   (0xFF85, "ナニヌネノハヒフヘホマミムメモヤユヨラリルレロワン\u3099\u309a"),
   (0xFFA1, "ᄀᄁᆪᄂᆬᆭᄃᄄᄅᆰᆱᆲᆳᆴᆵᄚᄆᄇᄈᄡᄉᄊᄋᄌᄍᄎᄏᄐᄑᄒ"), (0xFFC2, "ᅡᅢᅣᅤᅥᅦ"),
   (0xFFCA, "ᅧᅨᅩᅪᅫᅬ"), (0xFFD2, "ᅭᅮᅯᅰᅱᅲ"), (0xFFDA, "ᅳᅴᅵ"), (0xFFE0, "¢£¬"), (0xFFE4, "¦¥₩"),
   (0xFFE8, "│←↑→↓■○"), (0x10400, "𐐨𐐩𐐪𐐫𐐬𐐭𐐮𐐯𐐰𐐱𐐲𐐳𐐴𐐵𐐶𐐷𐐸𐐹𐐺𐐻𐐼𐐽𐐾𐐿𐑀𐑁𐑂𐑃𐑄𐑅𐑆𐑇𐑈𐑉𐑊𐑋𐑌𐑍𐑎𐑏"),
   (0x104B0, "𐓘𐓙𐓚𐓛𐓜𐓝𐓞𐓟𐓠𐓡𐓢𐓣𐓤𐓥𐓦𐓧𐓨𐓩𐓪𐓫𐓬𐓭𐓮𐓯𐓰𐓱𐓲𐓳𐓴𐓵𐓶𐓷𐓸𐓹𐓺𐓻"), (0x10570, "𐖗𐖘𐖙𐖚𐖛𐖜𐖝𐖞𐖟𐖠𐖡"),
   (0x1057C, "𐖣𐖤𐖥𐖦𐖧𐖨𐖩𐖪𐖫𐖬𐖭𐖮𐖯𐖰𐖱"), (0x1058C, "𐖳𐖴𐖵𐖶𐖷𐖸𐖹"), (0x10594, "𐖻𐖼"), (0x10781, "ːˑæʙɓ"),
   (0x10787, "ʣꭦʥʤɖɗᶑɘɞʩɤɢɠʛħʜɧʄʪʫɬ𝼄ꞎɮ𝼅ʎ𝼆øɶɷqɺ𝼈ɽɾʀʨʦꭧʧʈⱱ"), (0x107B2, "ʏʡʢʘǀǁǂ𝼊𝼞"),
   (0x10C80, "𐳀𐳁𐳂𐳃𐳄𐳅𐳆𐳇𐳈𐳉𐳊𐳋𐳌𐳍𐳎𐳏𐳐𐳑𐳒𐳓𐳔𐳕𐳖𐳗𐳘𐳙𐳚𐳛𐳜𐳝𐳞𐳟𐳠𐳡𐳢𐳣𐳤𐳥𐳦𐳧𐳨𐳩𐳪𐳫𐳬𐳭𐳮𐳯𐳰𐳱𐳲"),
   (0x10D50, "𐵰𐵱𐵲𐵳𐵴𐵵𐵶𐵷𐵸𐵹𐵺𐵻𐵼𐵽𐵾𐵿𐶀𐶁𐶂𐶃𐶄𐶅"),
   (0x118A0, "𑣀𑣁𑣂𑣃𑣄𑣅𑣆𑣇𑣈𑣉𑣊𑣋𑣌𑣍𑣎𑣏𑣐𑣑𑣒𑣓𑣔𑣕𑣖𑣗𑣘𑣙𑣚𑣛𑣜𑣝𑣞𑣟"), (0x16E40, "𖹠𖹡𖹢𖹣𖹤𖹥𖹦𖹧𖹨𖹩𖹪𖹫𖹬𖹭𖹮𖹯𖹰𖹱𖹲𖹳𖹴𖹵𖹶𖹷𖹸𖹹𖹺𖹻𖹼𖹽𖹾𖹿"),
   (0x16EA0, "𖺻𖺼𖺽𖺾𖺿𖻀𖻁𖻂𖻃𖻄𖻅𖻆𖻇𖻈𖻉𖻊𖻋𖻌𖻍𖻎𖻏𖻐𖻑𖻒𖻓"),
   (0x1CCD6, "abcdefghijklmnopqrstuvwxyz0123456789"),
   (0x1D400, "abcdefghijklmnopqrstuvwxyzabcdefghijklmnopqrstuvwxyzabcdefghijklmnopqrstuvwxyz"),
   (0x1D44E, "abcdefg"),
   (0x1D456, "ijklmnopqrstuvwxyzabcdefghijklmnopqrstuvwxyzabcdefghijklmnopqrstuvwxyza"),
   (0x1D49E, "cd"), (0x1D4A2, "g"), (0x1D4A5, "jk"), (0x1D4A9, "nopq"), (0x1D4AE, "stuvwxyzabcd"),
   (0x1D4BE, "ijklmn"), (0x1D4C5, "pqrstuvwxyzabcdefghijklmnopqrstuvwxyzabcdefghijklmnopqrstuvwxyzab"),
   (0x1D507, "defg"), (0x1D50D, "jklmnopq"), (0x1D516, "stuvwxy"),
   (0x1D51E, "abcdefghijklmnopqrstuvwxyzab"), (0x1D53B, "defg"), (0x1D540, "ijklm"), (0x1D546, "o"),
   (0x1D54A, "stuvwxy"),
   (0x1D552, "abcdefghijklmnopqrstuvwxyzabcdefghijklmnopqrstuvwxyzabcdefghijklmnopqrstuvwxyz"),
   (0x1D5A0, "abcdefghijklmnopqrstuvwxyzabcdefghijklmnopqrstuvwxyzabcdefghijklmnopqrstuvwxyz"),
   (0x1D5EE, "abcdefghijklmnopqrstuvwxyzabcdefghijklmnopqrstuvwxyzabcdefghijklmnopqrstuvwxyz"),
   (0x1D63C, "abcdefghijklmnopqrstuvwxyzabcdefghijklmnopqrstuvwxyzabcdefghijklmnopqrstuvwxyz"),
   (0x1D68A, "abcdefghijklmnopqrstuvwxyzıȷ"),
   (0x1D6A8, "αβγδεζηθικλμνξοπρθστυφχψω∇αβγδεζηθικλμνξοπρσστυφχψω∂εθκφρπαβγδεζηθικλμνξοπρθστ"),
   (0x1D6F6, "υφχψω∇αβγδεζηθικλμνξοπρσστυφχψω∂εθκφρπαβγδεζηθικλμνξοπρθστυφχψω∇αβγδεζηθικλμνξ"),
   (0x1D744, "οπρσστυφχψω∂εθκφρπαβγδεζηθικλμνξοπρθστυφχψω∇αβγδεζηθικλμνξοπρσστυφχψω∂εθκφρπαβ"),
   (0x1D792, "γδεζηθικλμνξοπρθστυφχψω∇αβγδεζηθικλμνξοπρσστυφχψω∂εθκφρπϝϝ"),
   (0x1D7CE, "01234567890123456789012345678901234567890123456789"),
   (0x1E030, "абвгдежзиклмопрстуфхцчшыэюꚉәіјөүӏабвгдежзиклопсуфхцчшъыґіѕџҫꙑұ"),
   (0x1E900, "𞤢𞤣𞤤𞤥𞤦𞤧𞤨𞤩𞤪𞤫𞤬𞤭𞤮𞤯𞤰𞤱𞤲𞤳𞤴𞤵𞤶𞤷𞤸𞤹𞤺𞤻𞤼𞤽𞤾𞤿𞥀𞥁𞥂𞥃"), (0x1EE00, "\u0627\u0628\u062c\u062f"),
   (0x1EE05, "\u0648\u0632\u062d\u0637\u064a\u0643\u0644\u0645\u0646\u0633\u0639\u0641\u0635"),
   (0x1EE12, "\u0642\u0631\u0634\u062a\u062b\u062e\u0630\u0636\u0638\u063a\u066e\u06ba\u06a1"),
   (0x1EE1F, "\u066f"), (0x1EE21, "\u0628\u062c"), (0x1EE24, "\u0647"),
   (0x1EE2A, "\u0643\u0644\u0645\u0646\u0633\u0639\u0641\u0635\u0642"),
   (0x1EE34, "\u0634\u062a\u062b\u062e"), (0x1EE42, "\u062c"), (0x1EE4E, "\u0633\u0639"),
   (0x1EE51, "\u0635\u0642"), (0x1EE54, "\u0634"), (0x1EE67, "\u062d\u0637\u064a\u0643"),
   (0x1EE6C, "\u0645\u0646\u0633\u0639\u0641\u0635\u0642"), (0x1EE74, "\u0634\u062a\u062b\u062e"),
   (0x1EE79, "\u0636\u0638\u063a\u066e"),
   (0x1EE81, "\u0628\u062c\u062f\u0647\u0648\u0632\u062d\u0637\u064a"),
   (0x1EE8B, "\u0644\u0645\u0646\u0633\u0639\u0641\u0635\u0642\u0631\u0634\u062a\u062b\u062e"),
   (0x1EE98, "\u0630\u0636\u0638\u063a"), (0x1EEA1, "\u0628\u062c\u062f"),
   (0x1EEA5, "\u0648\u0632\u062d\u0637\u064a"),
   (0x1EEAB, "\u0644\u0645\u0646\u0633\u0639\u0641\u0635\u0642\u0631\u0634\u062a\u062b\u062e"),
   (0x1EEB8, "\u0630\u0636\u0638\u063a"), (0x1F12B, "cr"), (0x1F130, "abcdefghijklmnopqrstuvwxyz"),
   (0x1F202, "サ"),
   (0x1F210, "手字双デ二多解天交映無料前後再新初終生販声吹演投捕一三遊左中右指走打禁空合満有"),
   (0x1F237, "月申割営配"), (0x1F250, "得可"), (0x1FBF0, "0123456789"),
   (0x2F800, "丽丸乁𠄢你侮侻倂偺備僧像㒞𠘺免兔兤具𠔜㒹內再𠕋冗冤仌冬况𩇟凵刃㓟刻剆割剷㔕勇勉"),
   (0x2F827, "勤勺包匆北卉卑博即卽卿卿卿𠨬灰及叟𠭣叫叱吆咞吸呈周咢哶唐啓啣善善喙喫喳嗂圖嘆圗"),
   (0x2F84E, "噑噴切壮城埴堍型堲報墬𡓤売壷夆多夢奢𡚨𡛪姬娛娧姘婦㛮㛼嬈嬾嬾𡧈寃寘寧寳𡬘寿将当"),
   (0x2F875, "尢㞁屠屮峀岍𡷤嵃𡷦嵮嵫嵼巡巢㠯巽帨帽幩㡢𢆃㡼庰庳庶廊𪎒廾𢌱𢌱舁弢弢㣇𣊸𦇚形彫㣣"),
   (0x2F89C, "徚忍志忹悁㤺㤜悔𢛔惇慈慌慎慌慺憎憲憤憯懞懲懶成戛扝抱拔捐𢬌挽拼捨掃揤𢯱搢揅掩㨮"),
   (0x2F8C3, "摩摾撝摷㩬敏敬𣀊旣書晉㬙暑㬈㫤冒冕最暜肭䏙朗望朡杞杓𣏃㭉柺枅桒梅𣑭梎栟椔㮝楂榣"),
   (0x2F8EA, "槪檨𣚣櫛㰘次𣢧歔㱎歲殟殺殻𣪍𡴋𣫺汎𣲼沿泍汧洖派海流浩浸涅𣴞洴港湮㴳滋滇𣻑淹潮𣽞"),
   (0x2F911, "𣾎濆瀹瀞瀛㶖灊災灷炭𠔥煅𤉣熜𤎫爨爵牐𤘈犀犕𤜵𤠔獺王㺬玥㺸㺸瑇瑜瑱璅瓊㼛甤𤰶甾𤲒"),
   (0x2F938, "異𢆟瘐𤾡𤾸𥁄㿼䀈直𥃳𥃲𥄙𥄳眞真真睊䀹瞋䁆䂖𥐝硎碌磌䃣𥘦祖𥚚𥛅福秫䄯穀穊穏𥥼𥪧𥪧"),
   (0x2F95F, "竮䈂𥮫篆築䈧𥲀糒䊠糨糣紀𥾆絣䌁緇縂繅䌴𦈨𦉇䍙𦋙罺𦌾羕翺者𦓚𦔣聠𦖨聰𣍟䏕育脃䐋脾"),
   (0x2F986, "媵𦞧𦞵𣎓𣎜舁舄辞䑫芑芋芝劳花芳芽苦𦬼若茝荣莭茣莽菧著荓菊菌菜𦰶𦵫𦳕䔫蓱蓳蔖𧏊蕤"),
   (0x2F9AD, "𦼬䕝䕡𦾱𧃒䕫虐虜虧虩蚩蚈蜎蛢蝹蜨蝫螆䗗蟡蠁䗹衠衣𧙧裗裞䘵裺㒻𧢮𧥦䚾䛇誠諭變豕𧲨"),
   (0x2F9D4, "貫賁贛起𧼯𠠄跋趼跰𠣞軔輸𨗒𨗭邔郱鄑𨜮鄛鈸鋗鋘鉼鏹鐕𨯺開䦕閷𨵷䧦雃嶲霣𩅅𩈚䩮䩶韠"),
   (0x2F9FB, "𩐊䪲𩒖頋頋頩𩖶飢䬳餩馧駂駾䯎𩬰鬒鱀鳽䳎䳭鵧𪃎䳸𪄅𪈎𪊑麻䵖黹黾鼅鼏鼖鼻𪘀")]

def alternatingRuns : List (Nat × String) :=
  [(0x100, "āăąćĉċčďđēĕėęěĝğġģĥħĩīĭį"), (0x134, "ĵķ"), (0x139, "ĺļľ"), (0x141, "łńņň"),
   (0x14A, "ŋōŏőœŕŗřśŝşšţťŧũūŭůűųŵŷÿ"), (0x179, "źżžsɓ"), (0x182, "ƃƅɔ"), (0x187, "ƈɖ"), (0x1A2, "ƣƥʀ"),
   (0x1A7, "ƨʃ"), (0x1AC, "ƭʈ"), (0x1AF, "ưʊ"), (0x1B5, "ƶʒ"), (0x1CD, "ǎǐǒǔǖǘǚǜ"),
   (0x1DE, "ǟǡǣǥǧǩǫǭǯ"), (0x1F4, "ǵƕ"), (0x1FA, "ǻǽǿȁȃȅȇȉȋȍȏȑȓȕȗșțȝȟƞȣȥȧȩȫȭȯȱȳ"), (0x241, "ɂƀ"),
   (0x248, "ɉɋɍɏ"), (0x343, "\u0313ι"), (0x370, "ͱͳʹͷ"), (0x38C, "όύ"), (0x38F, "ώα"),
   (0x3D8, "ϙϛϝϟϡϣϥϧϩϫϭϯκ"), (0x3F7, "ϸσ"), (0x460, "ѡѣѥѧѩѫѭѯѱѳѵѷѹѻѽѿҁ"),
   (0x48A, "ҋҍҏґғҕҗҙқҝҟҡңҥҧҩҫҭүұҳҵҷҹһҽҿӏ"), (0x4C1, "ӂӄӆӈӊӌӎ"),
   (0x4D0, "ӑӓӕӗәӛӝӟӡӣӥӧөӫӭӯӱӳӵӷӹӻӽӿԁԃԅԇԉԋԍԏԑԓԕԗԙԛԝԟԡԣԥԧԩԫԭԯ"),
   (0x1E00, "ḁḃḅḇḉḋḍḏḑḓḕḗḙḛḝḟḡḣḥḧḩḫḭḯḱḳḵḷḹḻḽḿṁṃṅṇṉṋṍṏṑṓṕṗṙṛṝṟṡṣṥṧṩṫṭṯṱṳṵṷṹṻṽṿẁẃẅẇẉẋẍẏẑẓẕ"),
   (0x1E9E, "ßạảấầẩẫậắằẳẵặẹẻẽếềểễệỉịọỏốồổỗộớờởỡợụủứừửữựỳỵỷỹỻỽỿ"), (0x1F59, "ὑὓὕὗ"), (0x1F71, "άέήίόύώ"),
   (0x2124, "zωzk"), (0x2C60, "ⱡɫ"), (0x2C67, "ⱨⱪⱬɑ"),
   (0x2C82, "ⲃⲅⲇⲉⲋⲍⲏⲑⲓⲕⲗⲙⲛⲝⲟⲡⲣⲥⲧⲩⲫⲭⲯⲱⲳⲵⲷⲹⲻⲽⲿⳁⳃⳅⳇⳉⳋⳍⳏⳑⳓⳕⳗⳙⳛⳝⳟⳡⳣ"), (0x2CEB, "ⳬⳮ"), (0x3036, "〒十"),
   (0x327E, "우一"), (0xA640, "ꙁꙃꙅꙇꙉꙋꙍꙏꙑꙓꙕꙗꙙꙛꙝꙟꙡꙣꙥꙧꙩꙫꙭ"), (0xA680, "ꚁꚃꚅꚇꚉꚋꚍꚏꚑꚓꚕꚗꚙꚛъ"),
   (0xA722, "ꜣꜥꜧꜩꜫꜭꜯ"), (0xA732, "ꜳꜵꜷꜹꜻꜽꜿꝁꝃꝅꝇꝉꝋꝍꝏꝑꝓꝕꝗꝙꝛꝝꝟꝡꝣꝥꝧꝩꝫꝭꝯꝯ"), (0xA779, "ꝺꝼᵹ"),
   (0xA77E, "ꝿꞁꞃꞅꞇ"), (0xA78B, "ꞌɥ"), (0xA790, "ꞑꞓ"), (0xA796, "ꞗꞙꞛꞝꞟꞡꞣꞥꞧꞩɦ"), (0xA7B6, "ꞷꞹꞻꞽꞿꟁꟃꞔ"),
   (0xA7C9, "ꟊɤ"), (0xA7CC, "\ua7cd\ua7cfꟑꟓꟕꟗꟙ\ua7dbƛ"), (0xFA10, "塚晴"), (0xFA20, "蘒諸"),
   (0xFF04, "$&"), (0xFF1B, ";="), (0x1D4BB, "fh"), (0x1EE27, "\u062d\u064a"),
   (0x1EE39, "\u0636\u063a"), (0x1EE47, "\u062d\u064a\u0644\u0646"),
   (0x1EE57, "\u062e\u0636\u063a\u06ba\u066f\u0628"), (0x1EE62, "\u062c\u0647"),
   (0x1EE7E, "\u06a1\u0627")]

/-- Runs of characters that are written as several others, with spaces between the characters of
the run. -/
def wordRuns : List (Nat × String) :=
  [(0xBC, "1⁄4 1⁄2 3⁄4"), (0x130, "i\u0307"), (0x132, "ij ij"), (0x13F, "l· l·"), (0x149, "ʼn"),
   (0x1C4, "dž dž dž lj lj lj nj nj nj"), (0x1F1, "dz dz dz"), (0x344, "\u0308\u0301"), (0x587, "եւ"),
   (0x675, "\u0627\u0674 \u0648\u0674 \u06c7\u0674 \u064a\u0674"),
   (0x958, "क\u093c ख\u093c ग\u093c ज\u093c ड\u093c ढ\u093c फ\u093c य\u093c"),
   (0x9DC, "ড\u09bc ঢ\u09bc"), (0x9DF, "য\u09bc"), (0xA33, "ਲ\u0a3c"), (0xA36, "ਸ\u0a3c"),
   (0xA59, "ਖ\u0a3c ਗ\u0a3c ਜ\u0a3c"), (0xA5E, "ਫ\u0a3c"), (0xB5C, "ଡ\u0b3c ଢ\u0b3c"),
   (0xE33, "\u0e4dา"), (0xEB3, "\u0ecdາ"), (0xEDC, "ຫນ ຫມ"), (0xF43, "ག\u0fb7"), (0xF4D, "ཌ\u0fb7"),
   (0xF52, "ད\u0fb7"), (0xF57, "བ\u0fb7"), (0xF5C, "ཛ\u0fb7"), (0xF69, "ཀ\u0fb5"),
   (0xF73, "\u0f71\u0f72"),
   (0xF75, "\u0f71\u0f74 \u0fb2\u0f80 \u0fb2\u0f71\u0f80 \u0fb3\u0f80 \u0fb3\u0f71\u0f80"),
   (0xF81, "\u0f71\u0f80"), (0xF93, "\u0f92\u0fb7"), (0xF9D, "\u0f9c\u0fb7"), (0xFA2, "\u0fa1\u0fb7"),
   (0xFA7, "\u0fa6\u0fb7"), (0xFAC, "\u0fab\u0fb7"), (0xFB9, "\u0f90\u0fb5"), (0x1E9A, "aʾ"),
   (0x1F80, "ἀι ἁι ἂι ἃι ἄι ἅι ἆι ἇι ἀι ἁι ἂι ἃι ἄι ἅι ἆι ἇι ἠι ἡι ἢι ἣι ἤι ἥι ἦι ἧι ἠι ἡι"),
   (0x1F9A, "ἢι ἣι ἤι ἥι ἦι ἧι ὠι ὡι ὢι ὣι ὤι ὥι ὦι ὧι ὠι ὡι ὢι ὣι ὤι ὥι ὦι ὧι"), (0x1FB2, "ὰι αι άι"),
   (0x1FB7, "ᾶι"), (0x1FBC, "αι"), (0x1FC2, "ὴι ηι ήι"), (0x1FC7, "ῆι"), (0x1FCC, "ηι"),
   (0x1FF2, "ὼι ωι ώι"), (0x1FF7, "ῶι"), (0x1FFC, "ωι"), (0x2033, "′′ ′′′"), (0x2036, "‵‵ ‵‵‵"),
   (0x203C, "!!"), (0x2057, "′′′′"), (0x20A8, "rs"), (0x2103, "°c"), (0x2109, "°f"), (0x2116, "no"),
   (0x2120, "sm tel tm"), (0x213B, "fax"),
   (0x2150, "1⁄7 1⁄9 1⁄10 1⁄3 2⁄3 1⁄5 2⁄5 3⁄5 4⁄5 1⁄6 5⁄6 1⁄8 3⁄8 5⁄8 7⁄8 1⁄"), (0x2161, "ii iii iv"),
   (0x2165, "vi vii viii ix"), (0x216A, "xi xii"), (0x2171, "ii iii iv"), (0x2175, "vi vii viii ix"),
   (0x217A, "xi xii"), (0x2189, "0⁄3"), (0x222C, "∫∫ ∫∫∫"), (0x222F, "∮∮ ∮∮∮"),
   (0x2469, "10 11 12 13 14 15 16 17 18 19 20 (1) (2) (3) (4) (5) (6) (7) (8) (9) (10)"),
   (0x247E, "(11) (12) (13) (14) (15) (16) (17) (18) (19) (20)"),
   (0x249C, "(a) (b) (c) (d) (e) (f) (g) (h) (i) (j) (k) (l) (m) (n) (o) (p) (q) (r) (s)"),
   (0x24AF, "(t) (u) (v) (w) (x) (y) (z)"), (0x2A0C, "∫∫∫∫"), (0x2A75, "== ==="), (0x2ADC, "⫝\u0338"),
   (0x309F, "より"), (0x30FF, "コト"),
   (0x3200, "(ᄀ) (ᄂ) (ᄃ) (ᄅ) (ᄆ) (ᄇ) (ᄉ) (ᄋ) (ᄌ) (ᄎ) (ᄏ) (ᄐ) (ᄑ) (ᄒ) (가)"),
   (0x320F, "(나) (다) (라) (마) (바) (사) (아) (자) (차) (카) (타) (파) (하) (주) (오전)"),
   (0x321E, "(오후)"),
   (0x3220, "(一) (二) (三) (四) (五) (六) (七) (八) (九) (十) (月) (火) (水) (木) (金)"),
   (0x322F, "(土) (日) (株) (有) (社) (名) (特) (財) (祝) (労) (代) (呼) (学) (監) (企)"),
   (0x323E, "(資) (協) (祭) (休) (自) (至)"),
   (0x3250, "pte 21 22 23 24 25 26 27 28 29 30 31 32 33 34 35"), (0x327C, "참고 주의"),
   (0x32B1, "36 37 38 39 40 41 42 43 44 45 46 47 48 49 50 1月 2月 3月 4月 5月 6月 7月 8月"),
   (0x32C8, "9月 10月 11月 12月 hg erg ev ltd"),
   (0x32FF, "令和 アパート アルファ アンペア アール イニング インチ ウォン エスクード"),
   (0x3308, "エーカー オンス オーム カイリ カラット カロリー ガロン ガンマ ギガ ギニー"),
   (0x3312, "キュリー ギルダー キロ キログラム キロメートル キロワット グラム グラムトン"),
   (0x331A, "クルゼイロ クローネ ケース コルナ コーポ サイクル サンチーム シリング センチ"),
   (0x3323, "セント ダース デシ ドル トン ナノ ノット ハイツ パーセント パーツ バーレル"),
   (0x332E, "ピアストル ピクル ピコ ビル ファラッド フィート ブッシェル フラン ヘクタール"),
   (0x3337, "ペソ ペニヒ ヘルツ ペンス ページ ベータ ポイント ボルト ホン ポンド ホール"),
   (0x3342, "ホーン マイクロ マイル マッハ マルク マンション ミクロン ミリ ミリバール メガ"),
   (0x334C, "メガトン メートル ヤード ヤール ユアン リットル リラ ルピー ルーブル レム"),
   (0x3356, "レントゲン ワット 0点 1点 2点 3点 4点 5点 6点 7点 8点 9点 10点 11点 12点 13点"),
   (0x3366, "14点 15点 16点 17点 18点 19点 20点 21点 22点 23点 24点 hpa da au bar ov pc dm"),
   (0x3378, "dm2 dm3 iu 平成 昭和 大正 明治 株式会社 pa na μa ma ka kb mb gb cal kcal pf"),
   (0x338B, "nf μf μg mg kg hz khz mhz ghz thz μl ml dl kl fm nm μm mm cm km mm2 cm2 m2"),
   (0x33A2, "km2 mm3 cm3 m3 km3 m∕s m∕s2 pa kpa mpa gpa rad rad∕s rad∕s2 ps ns μs ms pv nv"),
   (0x33B6, "μv mv kv mv pw nw μw mw kw mw kω mω"), (0x33C3, "bq cc cd c∕kg"),
   (0x33C8, "db gy ha hp in kk km kt lm ln log lx mb mil mol ph"),
   (0x33D9, "ppm pr sr sv wb v∕m a∕m 1日 2日 3日 4日 5日 6日 7日 8日 9日 10日 11日 12日"),
   (0x33EC, "13日 14日 15日 16日 17日 18日 19日 20日 21日 22日 23日 24日 25日 26日 27日"),
   (0x33FB, "28日 29日 30日 31日 gal"), (0xFB00, "ff fi fl ffi ffl st st"), (0xFB13, "մն մե մի վն մխ"),
   (0xFB1D, "\u05d9\u05b4"), (0xFB1F, "\u05f2\u05b7"),
   (0xFB2A, "\u05e9\u05c1 \u05e9\u05c2 \u05e9\u05bc\u05c1 \u05e9\u05bc\u05c2 \u05d0\u05b7"),
   (0xFB2F, "\u05d0\u05b8 \u05d0\u05bc \u05d1\u05bc \u05d2\u05bc \u05d3\u05bc \u05d4\u05bc"),
   (0xFB35, "\u05d5\u05bc \u05d6\u05bc"),
   (0xFB38, "\u05d8\u05bc \u05d9\u05bc \u05da\u05bc \u05db\u05bc \u05dc\u05bc"),
   (0xFB3E, "\u05de\u05bc"), (0xFB40, "\u05e0\u05bc \u05e1\u05bc"),
   (0xFB43, "\u05e3\u05bc \u05e4\u05bc"),
   (0xFB46, "\u05e6\u05bc \u05e7\u05bc \u05e8\u05bc \u05e9\u05bc \u05ea\u05bc \u05d5\u05b9"),
   (0xFB4C, "\u05d1\u05bf \u05db\u05bf \u05e4\u05bf \u05d0\u05dc"), (0xFBDD, "\u06c7\u0674"),
   (0xFBEA, "\u0626\u0627 \u0626\u0627 \u0626\u06d5 \u0626\u06d5 \u0626\u0648 \u0626\u0648"),
   (0xFBF0, "\u0626\u06c7 \u0626\u06c7 \u0626\u06c6 \u0626\u06c6 \u0626\u06c8 \u0626\u06c8"),
   (0xFBF6, "\u0626\u06d0 \u0626\u06d0 \u0626\u06d0 \u0626\u0649 \u0626\u0649 \u0626\u0649"),
   (0xFC00, "\u0626\u062c \u0626\u062d \u0626\u0645 \u0626\u0649 \u0626\u064a \u0628\u062c"),
   (0xFC06, "\u0628\u062d \u0628\u062e \u0628\u0645 \u0628\u0649 \u0628\u064a \u062a\u062c"),
   (0xFC0C, "\u062a\u062d \u062a\u062e \u062a\u0645 \u062a\u0649 \u062a\u064a \u062b\u062c"),
   (0xFC12, "\u062b\u0645 \u062b\u0649 \u062b\u064a \u062c\u062d \u062c\u0645 \u062d\u062c"),
   (0xFC18, "\u062d\u0645 \u062e\u062c \u062e\u062d \u062e\u0645 \u0633\u062c \u0633\u062d"),
   (0xFC1E, "\u0633\u062e \u0633\u0645 \u0635\u062d \u0635\u0645 \u0636\u062c \u0636\u062d"),
   (0xFC24, "\u0636\u062e \u0636\u0645 \u0637\u062d \u0637\u0645 \u0638\u0645 \u0639\u062c"),
   (0xFC2A, "\u0639\u0645 \u063a\u062c \u063a\u0645 \u0641\u062c \u0641\u062d \u0641\u062e"),
   (0xFC30, "\u0641\u0645 \u0641\u0649 \u0641\u064a \u0642\u062d \u0642\u0645 \u0642\u0649"),
   (0xFC36, "\u0642\u064a \u0643\u0627 \u0643\u062c \u0643\u062d \u0643\u062e \u0643\u0644"),
   (0xFC3C, "\u0643\u0645 \u0643\u0649 \u0643\u064a \u0644\u062c \u0644\u062d \u0644\u062e"),
   (0xFC42, "\u0644\u0645 \u0644\u0649 \u0644\u064a \u0645\u062c \u0645\u062d \u0645\u062e"),
   (0xFC48, "\u0645\u0645 \u0645\u0649 \u0645\u064a \u0646\u062c \u0646\u062d \u0646\u062e"),
   (0xFC4E, "\u0646\u0645 \u0646\u0649 \u0646\u064a \u0647\u062c \u0647\u0645 \u0647\u0649"),
   (0xFC54, "\u0647\u064a \u064a\u062c \u064a\u062d \u064a\u062e \u064a\u0645 \u064a\u0649"),
   (0xFC5A, "\u064a\u064a \u0630\u0670 \u0631\u0670 \u0649\u0670"),
   (0xFC64, "\u0626\u0631 \u0626\u0632 \u0626\u0645 \u0626\u0646 \u0626\u0649 \u0626\u064a"),
   (0xFC6A, "\u0628\u0631 \u0628\u0632 \u0628\u0645 \u0628\u0646 \u0628\u0649 \u0628\u064a"),
   (0xFC70, "\u062a\u0631 \u062a\u0632 \u062a\u0645 \u062a\u0646 \u062a\u0649 \u062a\u064a"),
   (0xFC76, "\u062b\u0631 \u062b\u0632 \u062b\u0645 \u062b\u0646 \u062b\u0649 \u062b\u064a"),
   (0xFC7C, "\u0641\u0649 \u0641\u064a \u0642\u0649 \u0642\u064a \u0643\u0627 \u0643\u0644"),
   (0xFC82, "\u0643\u0645 \u0643\u0649 \u0643\u064a \u0644\u0645 \u0644\u0649 \u0644\u064a"),
   (0xFC88, "\u0645\u0627 \u0645\u0645 \u0646\u0631 \u0646\u0632 \u0646\u0645 \u0646\u0646"),
   (0xFC8E, "\u0646\u0649 \u0646\u064a \u0649\u0670 \u064a\u0631 \u064a\u0632 \u064a\u0645"),
   (0xFC94, "\u064a\u0646 \u064a\u0649 \u064a\u064a \u0626\u062c \u0626\u062d \u0626\u062e"),
   (0xFC9A, "\u0626\u0645 \u0626\u0647 \u0628\u062c \u0628\u062d \u0628\u062e \u0628\u0645"),
   (0xFCA0, "\u0628\u0647 \u062a\u062c \u062a\u062d \u062a\u062e \u062a\u0645 \u062a\u0647"),
   (0xFCA6, "\u062b\u0645 \u062c\u062d \u062c\u0645 \u062d\u062c \u062d\u0645 \u062e\u062c"),
   (0xFCAC, "\u062e\u0645 \u0633\u062c \u0633\u062d \u0633\u062e \u0633\u0645 \u0635\u062d"),
   (0xFCB2, "\u0635\u062e \u0635\u0645 \u0636\u062c \u0636\u062d \u0636\u062e \u0636\u0645"),
   (0xFCB8, "\u0637\u062d \u0638\u0645 \u0639\u062c \u0639\u0645 \u063a\u062c \u063a\u0645"),
   (0xFCBE, "\u0641\u062c \u0641\u062d \u0641\u062e \u0641\u0645 \u0642\u062d \u0642\u0645"),
   (0xFCC4, "\u0643\u062c \u0643\u062d \u0643\u062e \u0643\u0644 \u0643\u0645 \u0644\u062c"),
   (0xFCCA, "\u0644\u062d \u0644\u062e \u0644\u0645 \u0644\u0647 \u0645\u062c \u0645\u062d"),
   (0xFCD0, "\u0645\u062e \u0645\u0645 \u0646\u062c \u0646\u062d \u0646\u062e \u0646\u0645"),
   (0xFCD6, "\u0646\u0647 \u0647\u062c \u0647\u0645 \u0647\u0670 \u064a\u062c \u064a\u062d"),
   (0xFCDC, "\u064a\u062e \u064a\u0645 \u064a\u0647 \u0626\u0645 \u0626\u0647 \u0628\u0645"),
   (0xFCE2, "\u0628\u0647 \u062a\u0645 \u062a\u0647 \u062b\u0645 \u062b\u0647 \u0633\u0645"),
   (0xFCE8, "\u0633\u0647 \u0634\u0645 \u0634\u0647 \u0643\u0644 \u0643\u0645 \u0644\u0645"),
   (0xFCEE, "\u0646\u0645 \u0646\u0647 \u064a\u0645 \u064a\u0647 \u0640\u064e\u0651"),
   (0xFCF3, "\u0640\u064f\u0651 \u0640\u0650\u0651 \u0637\u0649 \u0637\u064a \u0639\u0649"),
   (0xFCF8, "\u0639\u064a \u063a\u0649 \u063a\u064a \u0633\u0649 \u0633\u064a \u0634\u0649"),
   (0xFCFE, "\u0634\u064a \u062d\u0649 \u062d\u064a \u062c\u0649 \u062c\u064a \u062e\u0649"),
   (0xFD04, "\u062e\u064a \u0635\u0649 \u0635\u064a \u0636\u0649 \u0636\u064a \u0634\u062c"),
   (0xFD0A, "\u0634\u062d \u0634\u062e \u0634\u0645 \u0634\u0631 \u0633\u0631 \u0635\u0631"),
   (0xFD10, "\u0636\u0631 \u0637\u0649 \u0637\u064a \u0639\u0649 \u0639\u064a \u063a\u0649"),
   (0xFD16, "\u063a\u064a \u0633\u0649 \u0633\u064a \u0634\u0649 \u0634\u064a \u062d\u0649"),
   (0xFD1C, "\u062d\u064a \u062c\u0649 \u062c\u064a \u062e\u0649 \u062e\u064a \u0635\u0649"),
   (0xFD22, "\u0635\u064a \u0636\u0649 \u0636\u064a \u0634\u062c \u0634\u062d \u0634\u062e"),
   (0xFD28, "\u0634\u0645 \u0634\u0631 \u0633\u0631 \u0635\u0631 \u0636\u0631 \u0634\u062c"),
   (0xFD2E, "\u0634\u062d \u0634\u062e \u0634\u0645 \u0633\u0647 \u0634\u0647 \u0637\u0645"),
   (0xFD34, "\u0633\u062c \u0633\u062d \u0633\u062e \u0634\u062c \u0634\u062d \u0634\u062e"),
   (0xFD3A, "\u0637\u0645 \u0638\u0645 \u0627\u064b \u0627\u064b"),
   (0xFD50, "\u062a\u062c\u0645 \u062a\u062d\u062c \u062a\u062d\u062c \u062a\u062d\u0645"),
   (0xFD54, "\u062a\u062e\u0645 \u062a\u0645\u062c \u062a\u0645\u062d \u062a\u0645\u062e"),
   (0xFD58, "\u062c\u0645\u062d \u062c\u0645\u062d \u062d\u0645\u064a \u062d\u0645\u0649"),
   (0xFD5C, "\u0633\u062d\u062c \u0633\u062c\u062d \u0633\u062c\u0649 \u0633\u0645\u062d"),
   (0xFD60, "\u0633\u0645\u062d \u0633\u0645\u062c \u0633\u0645\u0645 \u0633\u0645\u0645"),
   (0xFD64, "\u0635\u062d\u062d \u0635\u062d\u062d \u0635\u0645\u0645 \u0634\u062d\u0645"),
   (0xFD68, "\u0634\u062d\u0645 \u0634\u062c\u064a \u0634\u0645\u062e \u0634\u0645\u062e"),
   (0xFD6C, "\u0634\u0645\u0645 \u0634\u0645\u0645 \u0636\u062d\u0649 \u0636\u062e\u0645"),
   (0xFD70, "\u0636\u062e\u0645 \u0637\u0645\u062d \u0637\u0645\u062d \u0637\u0645\u0645"),
   (0xFD74, "\u0637\u0645\u064a \u0639\u062c\u0645 \u0639\u0645\u0645 \u0639\u0645\u0645"),
   (0xFD78, "\u0639\u0645\u0649 \u063a\u0645\u0645 \u063a\u0645\u064a \u063a\u0645\u0649"),
   (0xFD7C, "\u0641\u062e\u0645 \u0641\u062e\u0645 \u0642\u0645\u062d \u0642\u0645\u0645"),
   (0xFD80, "\u0644\u062d\u0645 \u0644\u062d\u064a \u0644\u062d\u0649 \u0644\u062c\u062c"),
   (0xFD84, "\u0644\u062c\u062c \u0644\u062e\u0645 \u0644\u062e\u0645 \u0644\u0645\u062d"),
   (0xFD88, "\u0644\u0645\u062d \u0645\u062d\u062c \u0645\u062d\u0645 \u0645\u062d\u064a"),
   (0xFD8C, "\u0645\u062c\u062d \u0645\u062c\u0645 \u0645\u062e\u062c \u0645\u062e\u0645"),
   (0xFD92, "\u0645\u062c\u062e \u0647\u0645\u062c \u0647\u0645\u0645 \u0646\u062d\u0645"),
   (0xFD96, "\u0646\u062d\u0649 \u0646\u062c\u0645 \u0646\u062c\u0645 \u0646\u062c\u0649"),
   (0xFD9A, "\u0646\u0645\u064a \u0646\u0645\u0649 \u064a\u0645\u0645 \u064a\u0645\u0645"),
   (0xFD9E, "\u0628\u062e\u064a \u062a\u062c\u064a \u062a\u062c\u0649 \u062a\u062e\u064a"),
   (0xFDA2, "\u062a\u062e\u0649 \u062a\u0645\u064a \u062a\u0645\u0649 \u062c\u0645\u064a"),
   (0xFDA6, "\u062c\u062d\u0649 \u062c\u0645\u0649 \u0633\u062e\u0649 \u0635\u062d\u064a"),
   (0xFDAA, "\u0634\u062d\u064a \u0636\u062d\u064a \u0644\u062c\u064a \u0644\u0645\u064a"),
   (0xFDAE, "\u064a\u062d\u064a \u064a\u062c\u064a \u064a\u0645\u064a \u0645\u0645\u064a"),
   (0xFDB2, "\u0642\u0645\u064a \u0646\u062d\u064a \u0642\u0645\u062d \u0644\u062d\u0645"),
   (0xFDB6, "\u0639\u0645\u064a \u0643\u0645\u064a \u0646\u062c\u062d \u0645\u062e\u064a"),
   (0xFDBA, "\u0644\u062c\u0645 \u0643\u0645\u0645 \u0644\u062c\u0645 \u0646\u062c\u062d"),
   (0xFDBE, "\u062c\u062d\u064a \u062d\u062c\u064a \u0645\u062c\u064a \u0641\u0645\u064a"),
   (0xFDC2, "\u0628\u062d\u064a \u0643\u0645\u0645 \u0639\u062c\u0645 \u0635\u0645\u0645"),
   (0xFDC6, "\u0633\u062e\u064a \u0646\u062c\u064a"),
   (0xFDF0, "\u0635\u0644\u06d2 \u0642\u0644\u06d2 \u0627\u0644\u0644\u0647"),
   (0xFDF3, "\u0627\u0643\u0628\u0631 \u0645\u062d\u0645\u062f \u0635\u0644\u0639\u0645"),
   (0xFDF6, "\u0631\u0633\u0648\u0644 \u0639\u0644\u064a\u0647 \u0648\u0633\u0644\u0645"),
   (0xFDF9, "\u0635\u0644\u0649"), (0xFDFC, "\u0631\u06cc\u0627\u0644"), (0xFE71, "\u0640\u064b"),
   (0xFE77, "\u0640\u064e"), (0xFE79, "\u0640\u064f"), (0xFE7B, "\u0640\u0650"),
   (0xFE7D, "\u0640\u0651"), (0xFE7F, "\u0640\u0652"),
   (0xFEF5, "\u0644\u0622 \u0644\u0622 \u0644\u0623 \u0644\u0623 \u0644\u0625 \u0644\u0625"),
   (0xFEFB, "\u0644\u0627 \u0644\u0627"), (0x1D15E, "𝅗𝅥 𝅘𝅥 𝅘𝅥𝅮 𝅘𝅥𝅯 𝅘𝅥𝅰 𝅘𝅥𝅱 𝅘𝅥𝅲"),
   (0x1D1BB, "𝆹𝅥 𝆺𝅥 𝆹𝅥𝅮 𝆺𝅥𝅮 𝆹𝅥𝅯 𝆺𝅥𝅯"), (0x1F101, "0, 1, 2, 3, 4, 5, 6, 7, 8, 9,"),
   (0x1F110, "(a) (b) (c) (d) (e) (f) (g) (h) (i) (j) (k) (l) (m) (n) (o) (p) (q) (r) (s)"),
   (0x1F123, "(t) (u) (v) (w) (x) (y) (z) 〔s〕"), (0x1F12D, "cd wz"), (0x1F14A, "hv mv sd ss ppv wc"),
   (0x1F16A, "mc md mr"), (0x1F190, "dj"), (0x1F200, "ほか ココ"),
   (0x1F240, "〔本〕 〔三〕 〔二〕 〔安〕 〔点〕 〔打〕 〔盗〕 〔勝〕 〔敗〕")]

def ignoredRanges : CodeRanges :=
  [(0xAD, 0xAD), (0x34F, 0x34F), (0x115F, 0x1160), (0x17B4, 0x17B5), (0x180B, 0x180F), (0x200B, 0x200B),
   (0x2060, 0x2064), (0x206A, 0x206F), (0x3164, 0x3164), (0xFE00, 0xFE0F), (0xFEFF, 0xFEFF),
   (0xFFA0, 0xFFA0), (0x1BCA0, 0x1BCA3), (0x1D173, 0x1D17A), (0xE0100, 0xE01EF)]

/-- What a run tells about a code, where the codes of the run are `step` apart. -/
def inRun? {α : Type} (step : Nat) (first : Nat) (targets : List α) (code : Nat) : Option α :=
  if first ≤ code ∧ (code - first) % step = 0 then targets[(code - first) / step]? else none

def target? (code : Nat) : Option Text :=
  let single? := (runs.findSome? fun (first, t) => inRun? 1 first t.toList code).or
    (alternatingRuns.findSome? fun (first, t) => inRun? 2 first t.toList code)
  (single?.map fun c => [c]).or
    (wordRuns.findSome? fun (first, t) => inRun? 1 first (Text.pieces ' ' t.toList) code)

def mapped? (c : Char) : Option Text :=
  if c.toNat < 128 then some [c.toLower]
  else if isKept c then some [c]
  else if ignoredRanges.covers c then some []
  else target? c.toNat

end C4Diagram.Domain
