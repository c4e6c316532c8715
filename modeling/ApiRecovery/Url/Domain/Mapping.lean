import ApiRecovery.Text.LetterCase
import ApiRecovery.Text.Search

/-!
# Mapping of domain characters

What the characters of a domain name stand for. Capital letters stand for small ones and variants of
a character for the character itself; some characters stand for several, some for nothing, and some
may not occur. A row `(first, targets)` gives what the characters from `first` on stand for.
-/

namespace ApiRecovery.Domain

/-- Runs of characters that stand for one character, in the form of the runs of letter case. -/
def mappedRuns : List (Nat × Nat × Nat × Int) :=
  [(192, 214, 1, 32), (216, 222, 1, 32), (256, 302, 2, 1), (330, 374, 2, 1), (461, 475, 2, 1),
   (478, 494, 2, 1), (504, 542, 2, 1), (546, 562, 2, 1), (913, 929, 1, 32), (931, 939, 1, 32),
   (984, 1006, 2, 1), (1024, 1039, 1, 80), (1040, 1071, 1, 32), (1120, 1152, 2, 1),
   (1162, 1214, 2, 1), (1217, 1229, 2, 1), (1232, 1326, 2, 1), (1329, 1366, 1, 48),
   (4256, 4293, 1, 7264), (5112, 5117, 1, -8), (7312, 7354, 1, -3008), (7475, 7482, 1, -7372),
   (7680, 7828, 2, 1), (7840, 7934, 2, 1), (7944, 7951, 1, -8), (7960, 7965, 1, -8),
   (7976, 7983, 1, -8), (7992, 7999, 1, -8), (8008, 8013, 1, -8), (8040, 8047, 1, -8),
   (8308, 8313, 1, -8256), (8320, 8329, 1, -8272), (9312, 9320, 1, -9263), (9398, 9423, 1, -9301),
   (9424, 9449, 1, -9327), (11264, 11311, 1, 48), (11392, 11490, 2, 1), (12602, 12607, 1, -8074),
   (12613, 12622, 1, -8252), (12623, 12643, 1, -8174), (13028, 13033, 1, -538),
   (13045, 13050, 1, -525), (42560, 42604, 2, 1), (42624, 42650, 2, 1), (42786, 42798, 2, 1),
   (42802, 42862, 2, 1), (42902, 42920, 2, 1), (42932, 42946, 2, 1), (42956, 42970, 2, 1),
   (43888, 43967, 1, -38864), (65281, 65312, 1, -65248), (65313, 65338, 1, -65216),
   (65339, 65374, 1, -65248), (65413, 65418, 1, -52923), (65430, 65435, 1, -52910),
   (65450, 65455, 1, -60922), (65461, 65470, 1, -61100), (65474, 65479, 1, -61025),
   (65482, 65487, 1, -61027), (65490, 65495, 1, -61029), (66560, 66599, 1, 40),
   (66736, 66771, 1, 40), (66928, 66938, 1, 39), (66940, 66954, 1, 39), (66956, 66962, 1, 39),
   (68736, 68786, 1, 64), (68944, 68965, 1, 32), (71840, 71871, 1, 32), (93760, 93791, 1, 32),
   (93856, 93880, 1, 27), (117974, 117999, 1, -117877), (118000, 118009, 1, -117952),
   (119808, 119833, 1, -119711), (119834, 119859, 1, -119737), (119860, 119885, 1, -119763),
   (119886, 119892, 1, -119789), (119894, 119911, 1, -119789), (119912, 119937, 1, -119815),
   (119938, 119963, 1, -119841), (119982, 119989, 1, -119867), (119997, 120003, 1, -119893),
   (120005, 120015, 1, -119893), (120016, 120041, 1, -119919), (120042, 120067, 1, -119945),
   (120077, 120084, 1, -119971), (120086, 120092, 1, -119971), (120094, 120119, 1, -119997),
   (120124, 120134, 2, -120023), (120138, 120144, 1, -120023), (120146, 120171, 1, -120049),
   (120172, 120197, 1, -120075), (120198, 120223, 1, -120101), (120224, 120249, 1, -120127),
   (120250, 120275, 1, -120153), (120276, 120301, 1, -120179), (120302, 120327, 1, -120205),
   (120328, 120353, 1, -120231), (120354, 120379, 1, -120257), (120380, 120405, 1, -120283),
   (120406, 120431, 1, -120309), (120432, 120457, 1, -120335), (120458, 120483, 1, -120361),
   (120488, 120504, 1, -119543), (120506, 120512, 1, -119543), (120514, 120530, 1, -119569),
   (120532, 120538, 1, -119569), (120546, 120562, 1, -119601), (120564, 120570, 1, -119601),
   (120572, 120588, 1, -119627), (120590, 120596, 1, -119627), (120604, 120620, 1, -119659),
   (120622, 120628, 1, -119659), (120630, 120646, 1, -119685), (120648, 120654, 1, -119685),
   (120662, 120678, 1, -119717), (120680, 120686, 1, -119717), (120688, 120704, 1, -119743),
   (120706, 120712, 1, -119743), (120720, 120736, 1, -119775), (120738, 120744, 1, -119775),
   (120746, 120762, 1, -119801), (120764, 120770, 1, -119801), (120782, 120791, 1, -120734),
   (120792, 120801, 1, -120744), (120802, 120811, 1, -120754), (120812, 120821, 1, -120764),
   (120822, 120831, 1, -120774), (122928, 122936, 1, -121856), (122940, 122950, 1, -121854),
   (122961, 122969, 1, -121889), (122975, 122980, 1, -121884), (125184, 125217, 1, 34),
   (127280, 127305, 1, -127183), (130032, 130041, 1, -129984)]

def mappedRows : List (Nat × String) :=
  [(160, " "), (170, "a"), (178, "23"), (181, "μ"), (185, "1o"), (308, "ĵĵķķĸĺĺļļľ"),
   (321, "łłńńņņň"), (376, "ÿźźżżžžsƀɓƃƃƅƅɔƈƈɖɗƌƌƍǝəɛƒƒɠɣƕɩɨƙ"),
   (412, "ɯɲƞɵơơƣƣƥƥʀƨƨʃƪƫƭƭʈưưʊʋƴƴƶƶʒƹ"), (444, "ƽ"), (500, "ǵǵƕƿ"), (544, "ƞ"),
   (570, "ⱥȼȼƚⱦȿɀɂɂƀʉʌɇɇɉɉɋɋɍɍɏ"), (688, "hɦjrɹɻʁwy"), (736, "ɣlsxʕ"),
   (832, "\u0300\u0301\u0342\u0313"), (837, "ι"), (880, "ͱͱͳͳʹ͵ͷ"), (894, ";ϳ"), (902, "ά·έήί"),
   (908, "ό"), (910, "ύώ"), (975, "ϗβθυύϋφπ"), (1008, "κρσϳθε϶ϸϸσϻϻϼͻͼͽ"), (1216, "ӏ"), (3852, "་"),
   (4295, "ⴧ"), (4301, "ⴭ"), (4348, "ნ"), (7296, "вдосттъѣꙋ\u1c8a"), (7357, "ჽჾჿ"),
   (7468, "aæbᴯdeǝ"), (7484, "oȣprtuwaɐɑᴂbdeəɛɜgᵎkmŋoɔᴖᴗptuᴝɯvᴥβγδφχiruvβγρφχ"), (7544, "н"),
   (7579, "ɒcɕðɜfɟɡɥɨɩɪᵻʝɭᶅʟɱɰɲɳɴɵɸʂʃƫʉʊᴜʋʌzʐʑʒθ"), (7835, "ṡẜẝß"), (8025, "ὑ"), (8027, "ὓ"),
   (8029, "ὕ"), (8031, "ὗ"), (8049, "άὲέὴήὶίὸόὺύὼώ"), (8120, "ᾰᾱὰά"), (8126, "ι"), (8136, "ὲέὴή"),
   (8147, "ΐ"), (8152, "ῐῑὶί"), (8163, "ΰ"), (8168, "ῠῡὺύῥ"), (8175, "`"), (8184, "ὸόὼώ"),
   (8192, "           "), (8209, "‐"), (8239, " "), (8287, " "), (8304, "0i"), (8314, "+−=()n"),
   (8330, "+−=()"), (8336, "aeoxəhklmnpst"), (8450, "c"), (8455, "ɛ"), (8458, "ghhhhħiill℔n"),
   (8473, "pqrrr"), (8484, "z℥ω℧z℩kåbc℮eefⅎmo\u05d0\u05d1\u05d2\u05d3i"), (8508, "πγγπ∑"),
   (8517, "ddeij"), (8544, "i"), (8548, "v"), (8553, "x"), (8556, "lcdmi"), (8564, "v"),
   (8569, "x"), (8572, "lcdm"), (8579, "ↄ"), (9001, "〈〉"), (9450, "0"),
   (11360, "ⱡⱡɫᵽɽⱥⱦⱨⱨⱪⱪⱬⱬɑɱɐɒⱱⱳⱳⱴⱶ"), (11388, "jvȿɀ"), (11499, "ⳬⳬⳮ"), (11506, "ⳳ"), (11631, "ⵡ"),
   (11935, "母"), (12019, "龟"),
   (12032, "一丨丶丿乙亅二亠人儿入八冂冖冫几凵刀力勹匕匚匸十卜卩厂厶又口囗土士夂夊夕大女子宀寸小尢尸屮山巛工己巾干幺广廴廾弋弓彐彡彳心戈戶手支攴文斗斤方无日曰月木欠"),
   (12108, "止歹殳毋比毛氏气水火爪父爻爿片牙牛犬玄玉瓜瓦甘生用田疋疒癶白皮皿目矛矢石示禸禾穴立竹米糸缶网羊羽老而耒耳聿肉臣自至臼舌舛舟艮色艸虍虫血行衣襾見角言谷豆豕"),
   (12184, "豸貝赤走足身車辛辰辵邑酉釆里金長門阜隶隹雨靑非面革韋韭音頁風飛食首香馬骨高髟鬥鬯鬲鬼魚鳥鹵鹿麥麻黃黍黑黹黽鼎鼓鼠鼻齊齒龍龜龠"), (12288, " 、."),
   (12342, "〒〷十卄卅"), (12593, "ᄀᄁᆪᄂᆬᆭᄃᄄᄅ"), (12608, "ᄚᄆᄇᄈᄡ"),
   (12645, "ᄔᄕᇇᇈᇌᇎᇓᇗᇙᄜᇝᇟᄝᄞᄠᄢᄣᄧᄩᄫᄬᄭᄮᄯᄲᄶᅀᅇᅌᇱᇲᅗᅘᅙᆄᆅᆈᆑᆒᆔᆞᆡ"), (12690, "一二三四上中下甲乙丙丁天地人"),
   (12868, "問幼文箏"), (12896, "ᄀᄂᄃᄅᄆᄇᄉᄋᄌᄎᄏᄐᄑᄒ가나다라마바사아자차카타파하"),
   (12926, "우㉿一二三四五六七八九十月火水木金土日株有社名特財祝労秘男女適優印注項休写正上中下左右医宗学監企資協夜"), (13008, "アイウエオカキクケコサシスセソタチツテト"),
   (13034, "ヒフヘホマミムメモヤユ"), (13051, "ワヰヱヲ"), (42652, "ъь"), (42864, "ꝯ"), (42873, "ꝺꝺꝼꝼᵹꝿꝿꞁꞁꞃꞃꞅꞅꞇ"),
   (42891, "ꞌꞌɥꞎꞏꞑꞑꞓ"), (42922, "ɦɜɡɬɪꞯʞʇʝꭓ"), (42948, "ꞔʂᶎꟈꟈꟊꟊɤ"), (42972, "ƛ"),
   (42993, "scfqꟶꟶꟷħœ"), (43868, "ꜧꬷɫꭒ"), (43881, "ʍ"),
   (63744, "豈更車賈滑串句龜龜契金喇奈懶癩羅蘿螺裸邏樂洛烙珞落酪駱亂卵欄爛蘭鸞嵐濫藍襤拉臘蠟廊朗浪狼郎來冷勞擄櫓爐盧老蘆虜路露魯鷺碌祿綠菉錄鹿論壟弄籠聾牢磊賂雷壘屢"),
   (63820, "樓淚漏累縷陋勒肋凜凌稜綾菱陵讀拏樂諾丹寧怒率異北磻便復不泌數索參塞省葉說殺辰沈拾若掠略亮兩凉梁糧良諒量勵呂女廬旅濾礪閭驪麗黎力曆歷轢年憐戀撚漣煉璉秊練聯"),
   (63896, "輦蓮連鍊列劣咽烈裂說廉念捻殮簾獵令囹寧嶺怜玲瑩羚聆鈴零靈領例禮醴隸惡了僚寮尿料樂燎療蓼遼龍暈阮劉杻柳流溜琉留硫紐類六戮陸倫崙淪輪律慄栗率隆利吏履易李梨泥"),
   (63972, "理痢罹裏裡里離匿溺吝燐璘藺隣鱗麟林淋臨立笠粒狀炙識什茶刺切度拓糖宅洞暴輻行降見廓兀嗀﨎﨏塚﨑晴﨓﨔凞猪益礼神祥福靖精羽﨟蘒﨡諸﨣﨤逸都"),
   (64042, "飯飼館鶴郞隷侮僧免勉勤卑喝嘆器塀墨層屮悔慨憎懲敏既暑梅海渚漢煮爫琢碑社祉祈祐祖祝禍禎穀突節練縉繁署者臭艹艹著褐視謁謹賓贈辶逸難響頻恵𤋮舘"),
   (64112, "並况全侀充冀勇勺喝啕喙嗢塚墳奄奔婢嬨廒廙彩徭惘慎愈憎慠懲戴揄搜摒敖晴朗望杖歹殺流滛滋漢瀞煮瞧爵犯猪瑱甆画瘝瘟益盛直睊着磌窱節类絛練缾者荒華蝹襁覆視調諸請"),
   (64188, "謁諾諭謹變贈輸遲醙鉶陼難靖韛響頋頻鬒龜𢡊𢡄𣏕㮝䀘䀹𥉉𥳐𧻓齃龎"),
   (64288, "\u05e2\u05d0\u05d3\u05d4\u05db\u05dc\u05dd\u05e8\u05ea+"),
   (64336, "\u0671\u0671\u067b\u067b\u067b\u067b\u067e\u067e\u067e\u067e\u0680\u0680"),
   (64348, "\u0680\u0680\u067a\u067a\u067a\u067a\u067f\u067f\u067f\u067f\u0679\u0679"),
   (64360, "\u0679\u0679\u06a4\u06a4\u06a4\u06a4\u06a6\u06a6\u06a6\u06a6\u0684\u0684"),
   (64372, "\u0684\u0684\u0683\u0683\u0683\u0683\u0686\u0686\u0686\u0686\u0687\u0687"),
   (64384, "\u0687\u0687\u068d\u068d\u068c\u068c\u068e\u068e\u0688\u0688\u0698\u0698"),
   (64396, "\u0691\u0691\u06a9\u06a9\u06a9\u06a9\u06af\u06af\u06af\u06af\u06b3\u06b3"),
   (64408, "\u06b3\u06b3\u06b1\u06b1\u06b1\u06b1\u06ba\u06ba\u06bb\u06bb\u06bb\u06bb"),
   (64420, "\u06c0\u06c0\u06c1\u06c1\u06c1\u06c1\u06be\u06be\u06be\u06be\u06d2\u06d2"),
   (64432, "\u06d3\u06d3"), (64467, "\u06ad\u06ad\u06ad\u06ad\u06c7\u06c7\u06c6\u06c6\u06c8\u06c8"),
   (64478, "\u06cb\u06cb\u06c5\u06c5\u06c9\u06c9\u06d0\u06d0\u06d0\u06d0\u0649\u0649"),
   (64508, "\u06cc\u06cc\u06cc\u06cc"), (65040, ",、"), (65043, ":;!?〖〗"),
   (65073, "—–__()\x7b\x7d〔〕【】《》〈〉「」『』﹅﹆[]"), (65101, "___,、"),
   (65108, ";:?!—()\x7b\x7d〔〕#&*+-<>="), (65128, "\\$%@"),
   (65152, "\u0621\u0622\u0622\u0623\u0623\u0624\u0624\u0625\u0625\u0626\u0626\u0626"),
   (65164, "\u0626\u0627\u0627\u0628\u0628\u0628\u0628\u0629\u0629\u062a\u062a\u062a"),
   (65176, "\u062a\u062b\u062b\u062b\u062b\u062c\u062c\u062c\u062c\u062d\u062d\u062d"),
   (65188, "\u062d\u062e\u062e\u062e\u062e\u062f\u062f\u0630\u0630\u0631\u0631\u0632"),
   (65200, "\u0632\u0633\u0633\u0633\u0633\u0634\u0634\u0634\u0634\u0635\u0635\u0635"),
   (65212, "\u0635\u0636\u0636\u0636\u0636\u0637\u0637\u0637\u0637\u0638\u0638\u0638"),
   (65224, "\u0638\u0639\u0639\u0639\u0639\u063a\u063a\u063a\u063a\u0641\u0641\u0641"),
   (65236, "\u0641\u0642\u0642\u0642\u0642\u0643\u0643\u0643\u0643\u0644\u0644\u0644"),
   (65248, "\u0644\u0645\u0645\u0645\u0645\u0646\u0646\u0646\u0646\u0647\u0647\u0647"),
   (65260, "\u0647\u0648\u0648\u0649\u0649\u064a\u064a\u064a\u064a"),
   (65375, "⦅⦆.「」、・ヲァィゥェォャュョッーアイウエオカキクケコサシスセソタチツテト"), (65419, "ヒフヘホマミムメモヤユ"),
   (65436, "ワン\u3099\u309a"), (65441, "ᄀᄁᆪᄂᆬᆭᄃᄄᄅ"), (65456, "ᄚᄆᄇᄈᄡ"), (65498, "ᅳᅴᅵ"),
   (65504, "¢£¬"), (65508, "¦¥₩"), (65512, "│←↑→↓■○"), (66964, "𐖻𐖼"), (67457, "ːˑæʙɓ"),
   (67463, "ʣꭦʥʤɖɗᶑɘɞʩɤɢɠʛħʜɧʄʪʫɬ𝼄ꞎɮ𝼅ʎ𝼆øɶɷqɺ𝼈ɽɾʀʨʦꭧʧʈⱱ"), (67506, "ʏʡʢʘǀǁǂ𝼊𝼞"), (119964, "a"),
   (119966, "cd"), (119970, "g"), (119973, "jk"), (119977, "nopq"), (119990, "abcd"), (119995, "f"),
   (120068, "ab"), (120071, "defg"), (120120, "ab"), (120123, "d"), (120125, "f"), (120129, "j"),
   (120131, "l"), (120484, "ıȷ"), (120505, "θ"), (120513, "∇"), (120531, "σ"), (120539, "∂εθκφρπ"),
   (120563, "θ"), (120571, "∇"), (120589, "σ"), (120597, "∂εθκφρπ"), (120621, "θ"), (120629, "∇"),
   (120647, "σ"), (120655, "∂εθκφρπ"), (120679, "θ"), (120687, "∇"), (120705, "σ"),
   (120713, "∂εθκφρπ"), (120737, "θ"), (120745, "∇"), (120763, "σ"), (120771, "∂εθκφρπϝϝ"),
   (122937, "клм"), (122951, "ыэюꚉәіјөүӏ"), (122970, "клопс"), (122981, "ъыґіѕџҫꙑұ"),
   (126464, "\u0627\u0628\u062c\u062f"),
   (126469, "\u0648\u0632\u062d\u0637\u064a\u0643\u0644\u0645\u0646\u0633\u0639\u0641"),
   (126481, "\u0635\u0642\u0631\u0634\u062a\u062b\u062e\u0630\u0636\u0638\u063a\u066e"),
   (126493, "\u06ba\u06a1\u066f"), (126497, "\u0628\u062c"), (126500, "\u0647"), (126503, "\u062d"),
   (126505, "\u064a\u0643\u0644\u0645\u0646\u0633\u0639\u0641\u0635\u0642"),
   (126516, "\u0634\u062a\u062b\u062e"), (126521, "\u0636"), (126523, "\u063a"), (126530, "\u062c"),
   (126535, "\u062d"), (126537, "\u064a"), (126539, "\u0644"), (126541, "\u0646\u0633\u0639"),
   (126545, "\u0635\u0642"), (126548, "\u0634"), (126551, "\u062e"), (126553, "\u0636"),
   (126555, "\u063a"), (126557, "\u06ba"), (126559, "\u066f"), (126561, "\u0628\u062c"),
   (126564, "\u0647"), (126567, "\u062d\u0637\u064a\u0643"),
   (126572, "\u0645\u0646\u0633\u0639\u0641\u0635\u0642"), (126580, "\u0634\u062a\u062b\u062e"),
   (126585, "\u0636\u0638\u063a\u066e"), (126590, "\u06a1"),
   (126592, "\u0627\u0628\u062c\u062f\u0647\u0648\u0632\u062d\u0637\u064a"),
   (126603, "\u0644\u0645\u0646\u0633\u0639\u0641\u0635\u0642\u0631\u0634\u062a\u062b"),
   (126615, "\u062e\u0630\u0636\u0638\u063a"), (126625, "\u0628\u062c\u062f"),
   (126629, "\u0648\u0632\u062d\u0637\u064a"),
   (126635, "\u0644\u0645\u0646\u0633\u0639\u0641\u0635\u0642\u0631\u0634\u062a\u062b"),
   (126647, "\u062e\u0630\u0636\u0638\u063a"), (127275, "cr"), (127490, "サ"),
   (127504, "手字双デ二多解天交映無料前後再新初終生販声吹演投捕一三遊左中右指走打禁空合満有月申割営配"), (127568, "得可"),
   (194560, "丽丸乁𠄢你侮侻倂偺備僧像㒞𠘺免兔兤具𠔜㒹內再𠕋冗冤仌冬况𩇟凵刃㓟刻剆割剷㔕勇勉勤勺包匆北卉卑博即卽卿卿卿𠨬灰及叟𠭣叫叱吆咞吸呈周咢哶唐啓啣善善喙喫喳嗂圖"),
   (194636, "嘆圗噑噴切壮城埴堍型堲報墬𡓤売壷夆多夢奢𡚨𡛪姬娛娧姘婦㛮㛼嬈嬾嬾𡧈寃寘寧寳𡬘寿将当尢㞁屠屮峀岍𡷤嵃𡷦嵮嵫嵼巡巢㠯巽帨帽幩㡢𢆃㡼庰庳庶廊𪎒廾𢌱𢌱舁弢弢㣇𣊸"),
   (194712, "𦇚形彫㣣徚忍志忹悁㤺㤜悔𢛔惇慈慌慎慌慺憎憲憤憯懞懲懶成戛扝抱拔捐𢬌挽拼捨掃揤𢯱搢揅掩㨮摩摾撝摷㩬敏敬𣀊旣書晉㬙暑㬈㫤冒冕最暜肭䏙朗望朡杞杓𣏃㭉柺枅桒梅𣑭"),
   (194788, "梎栟椔㮝楂榣槪檨𣚣櫛㰘次𣢧歔㱎歲殟殺殻𣪍𡴋𣫺汎𣲼沿泍汧洖派海流浩浸涅𣴞洴港湮㴳滋滇𣻑淹潮𣽞𣾎濆瀹瀞瀛㶖灊災灷炭𠔥煅𤉣熜𤎫爨爵牐𤘈犀犕𤜵𤠔獺王㺬玥㺸㺸瑇瑜"),
   (194864, "瑱璅瓊㼛甤𤰶甾𤲒異𢆟瘐𤾡𤾸𥁄㿼䀈直𥃳𥃲𥄙𥄳眞真真睊䀹瞋䁆䂖𥐝硎碌磌䃣𥘦祖𥚚𥛅福秫䄯穀穊穏𥥼𥪧𥪧竮䈂𥮫篆築䈧𥲀糒䊠糨糣紀𥾆絣䌁緇縂繅䌴𦈨𦉇䍙𦋙罺𦌾羕翺者𦓚"),
   (194940, "𦔣聠𦖨聰𣍟䏕育脃䐋脾媵𦞧𦞵𣎓𣎜舁舄辞䑫芑芋芝劳花芳芽苦𦬼若茝荣莭茣莽菧著荓菊菌菜𦰶𦵫𦳕䔫蓱蓳蔖𧏊蕤𦼬䕝䕡𦾱𧃒䕫虐虜虧虩蚩蚈蜎蛢蝹蜨蝫螆䗗蟡蠁䗹衠衣𧙧裗裞"),
   (195016, "䘵裺㒻𧢮𧥦䚾䛇誠諭變豕𧲨貫賁贛起𧼯𠠄跋趼跰𠣞軔輸𨗒𨗭邔郱鄑𨜮鄛鈸鋗鋘鉼鏹鐕𨯺開䦕閷𨵷䧦雃嶲霣𩅅𩈚䩮䩶韠𩐊䪲𩒖頋頋頩𩖶飢䬳餩馧駂駾䯎𩬰鬒鱀鳽䳎䳭鵧𪃎䳸𪄅𪈎"),
   (195092, "𪊑麻䵖黹黾鼅鼏鼖鼻𪘀")]

/-- Characters that stand for several. Bars separate what the characters of a row stand for. -/
def expandedRows : List (Nat × String) :=
  [(168, " \u0308"), (175, " \u0304"), (180, " \u0301"), (184, " \u0327"), (188, "1⁄4|1⁄2|3⁄4"),
   (304, "i\u0307"), (306, "ij|ij"), (319, "l·|l·"), (329, "ʼn"),
   (452, "dž|dž|dž|lj|lj|lj|nj|nj|nj"), (497, "dz|dz|dz"),
   (728, " \u0306| \u0307| \u030a| \u0328| \u0303| \u030b"), (836, "\u0308\u0301"), (890, " ι"),
   (900, " \u0301| \u0308\u0301"), (1415, "եւ"),
   (1653, "\u0627\u0674|\u0648\u0674|\u06c7\u0674|\u064a\u0674"),
   (2392, "क\u093c|ख\u093c|ग\u093c|ज\u093c|ड\u093c|ढ\u093c|फ\u093c|य\u093c"),
   (2524, "ড\u09bc|ঢ\u09bc"), (2527, "য\u09bc"), (2611, "ਲ\u0a3c"), (2614, "ਸ\u0a3c"),
   (2649, "ਖ\u0a3c|ਗ\u0a3c|ਜ\u0a3c"), (2654, "ਫ\u0a3c"), (2908, "ଡ\u0b3c|ଢ\u0b3c"),
   (3635, "\u0e4dา"), (3763, "\u0ecdາ"), (3804, "ຫນ|ຫມ"), (3907, "ག\u0fb7"), (3917, "ཌ\u0fb7"),
   (3922, "ད\u0fb7"), (3927, "བ\u0fb7"), (3932, "ཛ\u0fb7"), (3945, "ཀ\u0fb5"),
   (3955, "\u0f71\u0f72"),
   (3957, "\u0f71\u0f74|\u0fb2\u0f80|\u0fb2\u0f71\u0f80|\u0fb3\u0f80|\u0fb3\u0f71\u0f80"),
   (3969, "\u0f71\u0f80"), (3987, "\u0f92\u0fb7"), (3997, "\u0f9c\u0fb7"), (4002, "\u0fa1\u0fb7"),
   (4007, "\u0fa6\u0fb7"), (4012, "\u0fab\u0fb7"), (4025, "\u0f90\u0fb5"), (7834, "aʾ"),
   (8064, "ἀι|ἁι|ἂι|ἃι|ἄι|ἅι|ἆι|ἇι|ἀι|ἁι|ἂι|ἃι|ἄι|ἅι|ἆι|ἇι|ἠι|ἡι|ἢι|ἣι|ἤι|ἥι|ἦι|ἧι|ἠι"),
   (8089, "ἡι|ἢι|ἣι|ἤι|ἥι|ἦι|ἧι|ὠι|ὡι|ὢι|ὣι|ὤι|ὥι|ὦι|ὧι|ὠι|ὡι|ὢι|ὣι|ὤι|ὥι|ὦι|ὧι"),
   (8114, "ὰι|αι|άι"), (8119, "ᾶι"), (8124, "αι| \u0313"),
   (8127, " \u0313| \u0342| \u0308\u0342|ὴι|ηι|ήι"), (8135, "ῆι"),
   (8140, "ηι| \u0313\u0300| \u0313\u0301| \u0313\u0342"),
   (8157, " \u0314\u0300| \u0314\u0301| \u0314\u0342"), (8173, " \u0308\u0300| \u0308\u0301"),
   (8178, "ὼι|ωι|ώι"), (8183, "ῶι"), (8188, "ωι| \u0301| \u0314"), (8215, " \u0333"),
   (8243, "′′|′′′"), (8246, "‵‵|‵‵‵"), (8252, "!!"), (8254, " \u0305"), (8263, "??|?!|!?"),
   (8279, "′′′′"), (8360, "rs"), (8448, "a/c|a/s"), (8451, "°c"), (8453, "c/o|c/u"), (8457, "°f"),
   (8470, "no"), (8480, "sm|tel|tm"), (8507, "fax"),
   (8528, "1⁄7|1⁄9|1⁄10|1⁄3|2⁄3|1⁄5|2⁄5|3⁄5|4⁄5|1⁄6|5⁄6|1⁄8|3⁄8|5⁄8|7⁄8|1⁄"), (8545, "ii|iii|iv"),
   (8549, "vi|vii|viii|ix"), (8554, "xi|xii"), (8561, "ii|iii|iv"), (8565, "vi|vii|viii|ix"),
   (8570, "xi|xii"), (8585, "0⁄3"), (8748, "∫∫|∫∫∫"), (8751, "∮∮|∮∮∮"),
   (9321, "10|11|12|13|14|15|16|17|18|19|20|(1)|(2)|(3)|(4)|(5)|(6)|(7)|(8)|(9)|(10)"),
   (9342, "(11)|(12)|(13)|(14)|(15)|(16)|(17)|(18)|(19)|(20)"),
   (9372, "(a)|(b)|(c)|(d)|(e)|(f)|(g)|(h)|(i)|(j)|(k)|(l)|(m)|(n)|(o)|(p)|(q)|(r)|(s)"),
   (9391, "(t)|(u)|(v)|(w)|(x)|(y)|(z)"), (10764, "∫∫∫∫"), (10868, "::=|==|==="),
   (10972, "⫝\u0338"), (12443, " \u3099| \u309a"), (12447, "より"), (12543, "コト"),
   (12800, "(ᄀ)|(ᄂ)|(ᄃ)|(ᄅ)|(ᄆ)|(ᄇ)|(ᄉ)|(ᄋ)|(ᄌ)|(ᄎ)|(ᄏ)|(ᄐ)|(ᄑ)|(ᄒ)|(가)|(나)|(다)|(라)|(마)"),
   (12819, "(바)|(사)|(아)|(자)|(차)|(카)|(타)|(파)|(하)|(주)|(오전)|(오후)"),
   (12832, "(一)|(二)|(三)|(四)|(五)|(六)|(七)|(八)|(九)|(十)|(月)|(火)|(水)|(木)|(金)|(土)|(日)|(株)|(有)"),
   (12851, "(社)|(名)|(特)|(財)|(祝)|(労)|(代)|(呼)|(学)|(監)|(企)|(資)|(協)|(祭)|(休)|(自)|(至)"),
   (12880, "pte|21|22|23|24|25|26|27|28|29|30|31|32|33|34|35"), (12924, "참고|주의"),
   (12977, "36|37|38|39|40|41|42|43|44|45|46|47|48|49|50|1月|2月|3月|4月|5月|6月|7月|8月|9月|10月"),
   (13002, "11月|12月|hg|erg|ev|ltd"),
   (13055, "令和|アパート|アルファ|アンペア|アール|イニング|インチ|ウォン|エスクード|エーカー|オンス|オーム|カイリ|カラット|カロリー|ガロン|ガンマ"),
   (13072, "ギガ|ギニー|キュリー|ギルダー|キロ|キログラム|キロメートル|キロワット|グラム|グラムトン|クルゼイロ|クローネ|ケース|コルナ|コーポ|サイクル"),
   (13088, "サンチーム|シリング|センチ|セント|ダース|デシ|ドル|トン|ナノ|ノット|ハイツ|パーセント|パーツ|バーレル|ピアストル|ピクル|ピコ|ビル"),
   (13106, "ファラッド|フィート|ブッシェル|フラン|ヘクタール|ペソ|ペニヒ|ヘルツ|ペンス|ページ|ベータ|ポイント|ボルト|ホン|ポンド|ホール|ホーン"),
   (13123, "マイクロ|マイル|マッハ|マルク|マンション|ミクロン|ミリ|ミリバール|メガ|メガトン|メートル|ヤード|ヤール|ユアン|リットル|リラ|ルピー"),
   (13140, "ルーブル|レム|レントゲン|ワット|0点|1点|2点|3点|4点|5点|6点|7点|8点|9点|10点|11点|12点|13点|14点|15点|16点"),
   (13161, "17点|18点|19点|20点|21点|22点|23点|24点|hpa|da|au|bar|ov|pc|dm|dm2|dm3|iu|平成|昭和|大正"),
   (13182, "明治|株式会社|pa|na|μa|ma|ka|kb|mb|gb|cal|kcal|pf|nf|μf|μg|mg|kg|hz|khz|mhz|ghz"),
   (13204, "thz|μl|ml|dl|kl|fm|nm|μm|mm|cm|km|mm2|cm2|m2|km2|mm3|cm3|m3|km3|m∕s|m∕s2|pa"),
   (13226, "kpa|mpa|gpa|rad|rad∕s|rad∕s2|ps|ns|μs|ms|pv|nv|μv|mv|kv|mv|pw|nw|μw|mw|kw|mw"),
   (13248, "kω|mω"), (13251, "bq|cc|cd|c∕kg"),
   (13256, "db|gy|ha|hp|in|kk|km|kt|lm|ln|log|lx|mb|mil|mol|ph"),
   (13273, "ppm|pr|sr|sv|wb|v∕m|a∕m|1日|2日|3日|4日|5日|6日|7日|8日|9日|10日|11日|12日|13日|14日|15日"),
   (13295, "16日|17日|18日|19日|20日|21日|22日|23日|24日|25日|26日|27日|28日|29日|30日|31日|gal"),
   (64256, "ff|fi|fl|ffi|ffl|st|st"), (64275, "մն|մե|մի|վն|մխ"), (64285, "\u05d9\u05b4"),
   (64287, "\u05f2\u05b7"),
   (64298, "\u05e9\u05c1|\u05e9\u05c2|\u05e9\u05bc\u05c1|\u05e9\u05bc\u05c2|\u05d0\u05b7"),
   (64303, "\u05d0\u05b8|\u05d0\u05bc|\u05d1\u05bc|\u05d2\u05bc|\u05d3\u05bc"),
   (64308, "\u05d4\u05bc|\u05d5\u05bc|\u05d6\u05bc"),
   (64312, "\u05d8\u05bc|\u05d9\u05bc|\u05da\u05bc|\u05db\u05bc|\u05dc\u05bc"),
   (64318, "\u05de\u05bc"), (64320, "\u05e0\u05bc|\u05e1\u05bc"),
   (64323, "\u05e3\u05bc|\u05e4\u05bc"),
   (64326, "\u05e6\u05bc|\u05e7\u05bc|\u05e8\u05bc|\u05e9\u05bc|\u05ea\u05bc"),
   (64331, "\u05d5\u05b9|\u05d1\u05bf|\u05db\u05bf|\u05e4\u05bf|\u05d0\u05dc"),
   (64477, "\u06c7\u0674"),
   (64490, "\u0626\u0627|\u0626\u0627|\u0626\u06d5|\u0626\u06d5|\u0626\u0648"),
   (64495, "\u0626\u0648|\u0626\u06c7|\u0626\u06c7|\u0626\u06c6|\u0626\u06c6"),
   (64500, "\u0626\u06c8|\u0626\u06c8|\u0626\u06d0|\u0626\u06d0|\u0626\u06d0"),
   (64505, "\u0626\u0649|\u0626\u0649|\u0626\u0649"),
   (64512, "\u0626\u062c|\u0626\u062d|\u0626\u0645|\u0626\u0649|\u0626\u064a"),
   (64517, "\u0628\u062c|\u0628\u062d|\u0628\u062e|\u0628\u0645|\u0628\u0649"),
   (64522, "\u0628\u064a|\u062a\u062c|\u062a\u062d|\u062a\u062e|\u062a\u0645"),
   (64527, "\u062a\u0649|\u062a\u064a|\u062b\u062c|\u062b\u0645|\u062b\u0649"),
   (64532, "\u062b\u064a|\u062c\u062d|\u062c\u0645|\u062d\u062c|\u062d\u0645"),
   (64537, "\u062e\u062c|\u062e\u062d|\u062e\u0645|\u0633\u062c|\u0633\u062d"),
   (64542, "\u0633\u062e|\u0633\u0645|\u0635\u062d|\u0635\u0645|\u0636\u062c"),
   (64547, "\u0636\u062d|\u0636\u062e|\u0636\u0645|\u0637\u062d|\u0637\u0645"),
   (64552, "\u0638\u0645|\u0639\u062c|\u0639\u0645|\u063a\u062c|\u063a\u0645"),
   (64557, "\u0641\u062c|\u0641\u062d|\u0641\u062e|\u0641\u0645|\u0641\u0649"),
   (64562, "\u0641\u064a|\u0642\u062d|\u0642\u0645|\u0642\u0649|\u0642\u064a"),
   (64567, "\u0643\u0627|\u0643\u062c|\u0643\u062d|\u0643\u062e|\u0643\u0644"),
   (64572, "\u0643\u0645|\u0643\u0649|\u0643\u064a|\u0644\u062c|\u0644\u062d"),
   (64577, "\u0644\u062e|\u0644\u0645|\u0644\u0649|\u0644\u064a|\u0645\u062c"),
   (64582, "\u0645\u062d|\u0645\u062e|\u0645\u0645|\u0645\u0649|\u0645\u064a"),
   (64587, "\u0646\u062c|\u0646\u062d|\u0646\u062e|\u0646\u0645|\u0646\u0649"),
   (64592, "\u0646\u064a|\u0647\u062c|\u0647\u0645|\u0647\u0649|\u0647\u064a"),
   (64597, "\u064a\u062c|\u064a\u062d|\u064a\u062e|\u064a\u0645|\u064a\u0649"),
   (64602, "\u064a\u064a|\u0630\u0670|\u0631\u0670|\u0649\u0670| \u064c\u0651"),
   (64607, " \u064d\u0651| \u064e\u0651| \u064f\u0651| \u0650\u0651| \u0651\u0670"),
   (64612, "\u0626\u0631|\u0626\u0632|\u0626\u0645|\u0626\u0646|\u0626\u0649"),
   (64617, "\u0626\u064a|\u0628\u0631|\u0628\u0632|\u0628\u0645|\u0628\u0646"),
   (64622, "\u0628\u0649|\u0628\u064a|\u062a\u0631|\u062a\u0632|\u062a\u0645"),
   (64627, "\u062a\u0646|\u062a\u0649|\u062a\u064a|\u062b\u0631|\u062b\u0632"),
   (64632, "\u062b\u0645|\u062b\u0646|\u062b\u0649|\u062b\u064a|\u0641\u0649"),
   (64637, "\u0641\u064a|\u0642\u0649|\u0642\u064a|\u0643\u0627|\u0643\u0644"),
   (64642, "\u0643\u0645|\u0643\u0649|\u0643\u064a|\u0644\u0645|\u0644\u0649"),
   (64647, "\u0644\u064a|\u0645\u0627|\u0645\u0645|\u0646\u0631|\u0646\u0632"),
   (64652, "\u0646\u0645|\u0646\u0646|\u0646\u0649|\u0646\u064a|\u0649\u0670"),
   (64657, "\u064a\u0631|\u064a\u0632|\u064a\u0645|\u064a\u0646|\u064a\u0649"),
   (64662, "\u064a\u064a|\u0626\u062c|\u0626\u062d|\u0626\u062e|\u0626\u0645"),
   (64667, "\u0626\u0647|\u0628\u062c|\u0628\u062d|\u0628\u062e|\u0628\u0645"),
   (64672, "\u0628\u0647|\u062a\u062c|\u062a\u062d|\u062a\u062e|\u062a\u0645"),
   (64677, "\u062a\u0647|\u062b\u0645|\u062c\u062d|\u062c\u0645|\u062d\u062c"),
   (64682, "\u062d\u0645|\u062e\u062c|\u062e\u0645|\u0633\u062c|\u0633\u062d"),
   (64687, "\u0633\u062e|\u0633\u0645|\u0635\u062d|\u0635\u062e|\u0635\u0645"),
   (64692, "\u0636\u062c|\u0636\u062d|\u0636\u062e|\u0636\u0645|\u0637\u062d"),
   (64697, "\u0638\u0645|\u0639\u062c|\u0639\u0645|\u063a\u062c|\u063a\u0645"),
   (64702, "\u0641\u062c|\u0641\u062d|\u0641\u062e|\u0641\u0645|\u0642\u062d"),
   (64707, "\u0642\u0645|\u0643\u062c|\u0643\u062d|\u0643\u062e|\u0643\u0644"),
   (64712, "\u0643\u0645|\u0644\u062c|\u0644\u062d|\u0644\u062e|\u0644\u0645"),
   (64717, "\u0644\u0647|\u0645\u062c|\u0645\u062d|\u0645\u062e|\u0645\u0645"),
   (64722, "\u0646\u062c|\u0646\u062d|\u0646\u062e|\u0646\u0645|\u0646\u0647"),
   (64727, "\u0647\u062c|\u0647\u0645|\u0647\u0670|\u064a\u062c|\u064a\u062d"),
   (64732, "\u064a\u062e|\u064a\u0645|\u064a\u0647|\u0626\u0645|\u0626\u0647"),
   (64737, "\u0628\u0645|\u0628\u0647|\u062a\u0645|\u062a\u0647|\u062b\u0645"),
   (64742, "\u062b\u0647|\u0633\u0645|\u0633\u0647|\u0634\u0645|\u0634\u0647"),
   (64747, "\u0643\u0644|\u0643\u0645|\u0644\u0645|\u0646\u0645|\u0646\u0647"),
   (64752, "\u064a\u0645|\u064a\u0647|\u0640\u064e\u0651|\u0640\u064f\u0651"),
   (64756, "\u0640\u0650\u0651|\u0637\u0649|\u0637\u064a|\u0639\u0649|\u0639\u064a"),
   (64761, "\u063a\u0649|\u063a\u064a|\u0633\u0649|\u0633\u064a|\u0634\u0649"),
   (64766, "\u0634\u064a|\u062d\u0649|\u062d\u064a|\u062c\u0649|\u062c\u064a"),
   (64771, "\u062e\u0649|\u062e\u064a|\u0635\u0649|\u0635\u064a|\u0636\u0649"),
   (64776, "\u0636\u064a|\u0634\u062c|\u0634\u062d|\u0634\u062e|\u0634\u0645"),
   (64781, "\u0634\u0631|\u0633\u0631|\u0635\u0631|\u0636\u0631|\u0637\u0649"),
   (64786, "\u0637\u064a|\u0639\u0649|\u0639\u064a|\u063a\u0649|\u063a\u064a"),
   (64791, "\u0633\u0649|\u0633\u064a|\u0634\u0649|\u0634\u064a|\u062d\u0649"),
   (64796, "\u062d\u064a|\u062c\u0649|\u062c\u064a|\u062e\u0649|\u062e\u064a"),
   (64801, "\u0635\u0649|\u0635\u064a|\u0636\u0649|\u0636\u064a|\u0634\u062c"),
   (64806, "\u0634\u062d|\u0634\u062e|\u0634\u0645|\u0634\u0631|\u0633\u0631"),
   (64811, "\u0635\u0631|\u0636\u0631|\u0634\u062c|\u0634\u062d|\u0634\u062e"),
   (64816, "\u0634\u0645|\u0633\u0647|\u0634\u0647|\u0637\u0645|\u0633\u062c"),
   (64821, "\u0633\u062d|\u0633\u062e|\u0634\u062c|\u0634\u062d|\u0634\u062e"),
   (64826, "\u0637\u0645|\u0638\u0645|\u0627\u064b|\u0627\u064b"),
   (64848, "\u062a\u062c\u0645|\u062a\u062d\u062c|\u062a\u062d\u062c|\u062a\u062d\u0645"),
   (64852, "\u062a\u062e\u0645|\u062a\u0645\u062c|\u062a\u0645\u062d|\u062a\u0645\u062e"),
   (64856, "\u062c\u0645\u062d|\u062c\u0645\u062d|\u062d\u0645\u064a|\u062d\u0645\u0649"),
   (64860, "\u0633\u062d\u062c|\u0633\u062c\u062d|\u0633\u062c\u0649|\u0633\u0645\u062d"),
   (64864, "\u0633\u0645\u062d|\u0633\u0645\u062c|\u0633\u0645\u0645|\u0633\u0645\u0645"),
   (64868, "\u0635\u062d\u062d|\u0635\u062d\u062d|\u0635\u0645\u0645|\u0634\u062d\u0645"),
   (64872, "\u0634\u062d\u0645|\u0634\u062c\u064a|\u0634\u0645\u062e|\u0634\u0645\u062e"),
   (64876, "\u0634\u0645\u0645|\u0634\u0645\u0645|\u0636\u062d\u0649|\u0636\u062e\u0645"),
   (64880, "\u0636\u062e\u0645|\u0637\u0645\u062d|\u0637\u0645\u062d|\u0637\u0645\u0645"),
   (64884, "\u0637\u0645\u064a|\u0639\u062c\u0645|\u0639\u0645\u0645|\u0639\u0645\u0645"),
   (64888, "\u0639\u0645\u0649|\u063a\u0645\u0645|\u063a\u0645\u064a|\u063a\u0645\u0649"),
   (64892, "\u0641\u062e\u0645|\u0641\u062e\u0645|\u0642\u0645\u062d|\u0642\u0645\u0645"),
   (64896, "\u0644\u062d\u0645|\u0644\u062d\u064a|\u0644\u062d\u0649|\u0644\u062c\u062c"),
   (64900, "\u0644\u062c\u062c|\u0644\u062e\u0645|\u0644\u062e\u0645|\u0644\u0645\u062d"),
   (64904, "\u0644\u0645\u062d|\u0645\u062d\u062c|\u0645\u062d\u0645|\u0645\u062d\u064a"),
   (64908, "\u0645\u062c\u062d|\u0645\u062c\u0645|\u0645\u062e\u062c|\u0645\u062e\u0645"),
   (64914, "\u0645\u062c\u062e|\u0647\u0645\u062c|\u0647\u0645\u0645|\u0646\u062d\u0645"),
   (64918, "\u0646\u062d\u0649|\u0646\u062c\u0645|\u0646\u062c\u0645|\u0646\u062c\u0649"),
   (64922, "\u0646\u0645\u064a|\u0646\u0645\u0649|\u064a\u0645\u0645|\u064a\u0645\u0645"),
   (64926, "\u0628\u062e\u064a|\u062a\u062c\u064a|\u062a\u062c\u0649|\u062a\u062e\u064a"),
   (64930, "\u062a\u062e\u0649|\u062a\u0645\u064a|\u062a\u0645\u0649|\u062c\u0645\u064a"),
   (64934, "\u062c\u062d\u0649|\u062c\u0645\u0649|\u0633\u062e\u0649|\u0635\u062d\u064a"),
   (64938, "\u0634\u062d\u064a|\u0636\u062d\u064a|\u0644\u062c\u064a|\u0644\u0645\u064a"),
   (64942, "\u064a\u062d\u064a|\u064a\u062c\u064a|\u064a\u0645\u064a|\u0645\u0645\u064a"),
   (64946, "\u0642\u0645\u064a|\u0646\u062d\u064a|\u0642\u0645\u062d|\u0644\u062d\u0645"),
   (64950, "\u0639\u0645\u064a|\u0643\u0645\u064a|\u0646\u062c\u062d|\u0645\u062e\u064a"),
   (64954, "\u0644\u062c\u0645|\u0643\u0645\u0645|\u0644\u062c\u0645|\u0646\u062c\u062d"),
   (64958, "\u062c\u062d\u064a|\u062d\u062c\u064a|\u0645\u062c\u064a|\u0641\u0645\u064a"),
   (64962, "\u0628\u062d\u064a|\u0643\u0645\u0645|\u0639\u062c\u0645|\u0635\u0645\u0645"),
   (64966, "\u0633\u062e\u064a|\u0646\u062c\u064a"),
   (65008, "\u0635\u0644\u06d2|\u0642\u0644\u06d2|\u0627\u0644\u0644\u0647"),
   (65011, "\u0627\u0643\u0628\u0631|\u0645\u062d\u0645\u062f|\u0635\u0644\u0639\u0645"),
   (65014, "\u0631\u0633\u0648\u0644|\u0639\u0644\u064a\u0647|\u0648\u0633\u0644\u0645"),
   (65017, "\u0635\u0644\u0649"),
   (65018,
   "\u0635\u0644\u0649 \u0627\u0644\u0644\u0647 \u0639\u0644\u064a\u0647 \u0648\u0633\u0644\u0645"),
   (65019, "\u062c\u0644 \u062c\u0644\u0627\u0644\u0647|\u0631\u06cc\u0627\u0644"),
   (65097, " \u0305| \u0305| \u0305| \u0305"), (65136, " \u064b|\u0640\u064b| \u064c"),
   (65140, " \u064d"),
   (65142, " \u064e|\u0640\u064e| \u064f|\u0640\u064f| \u0650|\u0640\u0650| \u0651"),
   (65149, "\u0640\u0651| \u0652|\u0640\u0652"),
   (65269, "\u0644\u0622|\u0644\u0622|\u0644\u0623|\u0644\u0623|\u0644\u0625"),
   (65274, "\u0644\u0625|\u0644\u0627|\u0644\u0627"), (65507, " \u0304"),
   (119134, "𝅗𝅥|𝅘𝅥|𝅘𝅥𝅮|𝅘𝅥𝅯|𝅘𝅥𝅰|𝅘𝅥𝅱|𝅘𝅥𝅲"), (119227, "𝆹𝅥|𝆺𝅥|𝆹𝅥𝅮|𝆺𝅥𝅮|𝆹𝅥𝅯|𝆺𝅥𝅯"),
   (127233, "0,|1,|2,|3,|4,|5,|6,|7,|8,|9,"),
   (127248, "(a)|(b)|(c)|(d)|(e)|(f)|(g)|(h)|(i)|(j)|(k)|(l)|(m)|(n)|(o)|(p)|(q)|(r)|(s)"),
   (127267, "(t)|(u)|(v)|(w)|(x)|(y)|(z)|〔s〕"), (127277, "cd|wz"), (127306, "hv|mv|sd|ss|ppv|wc"),
   (127338, "mc|md|mr"), (127376, "dj"), (127488, "ほか|ココ"),
   (127552, "〔本〕|〔三〕|〔二〕|〔安〕|〔点〕|〔打〕|〔盗〕|〔勝〕|〔敗〕")]

def ignoredRanges : List (Nat × Nat) :=
  [(173, 173), (847, 847), (4447, 4448), (6068, 6069), (6155, 6159), (8203, 8203), (8288, 8292),
   (8298, 8303), (12644, 12644), (65024, 65039), (65279, 65279), (65440, 65440), (113824, 113827),
   (119155, 119162), (917760, 917999)]

/-- Characters that may not occur and stand for nothing else, most of them not assigned. -/
def disallowedRanges : List (Nat × Nat) :=
  [(128, 159), (888, 889), (896, 899), (907, 907), (909, 909), (930, 930), (1328, 1328),
   (1367, 1368), (1419, 1420), (1424, 1424), (1480, 1487), (1515, 1518), (1525, 1541), (1564, 1564),
   (1757, 1757), (1806, 1807), (1867, 1868), (1970, 1983), (2043, 2044), (2094, 2095), (2111, 2111),
   (2140, 2141), (2143, 2143), (2155, 2159), (2192, 2198), (2274, 2274), (2436, 2436), (2445, 2446),
   (2449, 2450), (2473, 2473), (2481, 2481), (2483, 2485), (2490, 2491), (2501, 2502), (2505, 2506),
   (2511, 2518), (2520, 2523), (2526, 2526), (2532, 2533), (2559, 2560), (2564, 2564), (2571, 2574),
   (2577, 2578), (2601, 2601), (2609, 2609), (2612, 2612), (2615, 2615), (2618, 2619), (2621, 2621),
   (2627, 2630), (2633, 2634), (2638, 2640), (2642, 2648), (2653, 2653), (2655, 2661), (2679, 2688),
   (2692, 2692), (2702, 2702), (2706, 2706), (2729, 2729), (2737, 2737), (2740, 2740), (2746, 2747),
   (2758, 2758), (2762, 2762), (2766, 2767), (2769, 2783), (2788, 2789), (2802, 2808), (2816, 2816),
   (2820, 2820), (2829, 2830), (2833, 2834), (2857, 2857), (2865, 2865), (2868, 2868), (2874, 2875),
   (2885, 2886), (2889, 2890), (2894, 2900), (2904, 2907), (2910, 2910), (2916, 2917), (2936, 2945),
   (2948, 2948), (2955, 2957), (2961, 2961), (2966, 2968), (2971, 2971), (2973, 2973), (2976, 2978),
   (2981, 2983), (2987, 2989), (3002, 3005), (3011, 3013), (3017, 3017), (3022, 3023), (3025, 3030),
   (3032, 3045), (3067, 3071), (3085, 3085), (3089, 3089), (3113, 3113), (3130, 3131), (3141, 3141),
   (3145, 3145), (3150, 3156), (3159, 3159), (3163, 3163), (3166, 3167), (3172, 3173), (3184, 3190),
   (3213, 3213), (3217, 3217), (3241, 3241), (3252, 3252), (3258, 3259), (3269, 3269), (3273, 3273),
   (3278, 3284), (3287, 3291), (3295, 3295), (3300, 3301), (3312, 3312), (3316, 3327), (3341, 3341),
   (3345, 3345), (3397, 3397), (3401, 3401), (3408, 3411), (3428, 3429), (3456, 3456), (3460, 3460),
   (3479, 3481), (3506, 3506), (3516, 3516), (3518, 3519), (3527, 3529), (3531, 3534), (3541, 3541),
   (3543, 3543), (3552, 3557), (3568, 3569), (3573, 3584), (3643, 3646), (3676, 3712), (3715, 3715),
   (3717, 3717), (3723, 3723), (3748, 3748), (3750, 3750), (3774, 3775), (3781, 3781), (3783, 3783),
   (3791, 3791), (3802, 3803), (3808, 3839), (3912, 3912), (3949, 3952), (3992, 3992), (4029, 4029),
   (4045, 4045), (4059, 4095), (4294, 4294), (4296, 4300), (4302, 4303), (4681, 4681), (4686, 4687),
   (4695, 4695), (4697, 4697), (4702, 4703), (4745, 4745), (4750, 4751), (4785, 4785), (4790, 4791),
   (4799, 4799), (4801, 4801), (4806, 4807), (4823, 4823), (4881, 4881), (4886, 4887), (4955, 4956),
   (4989, 4991), (5018, 5023), (5110, 5111), (5118, 5119), (5760, 5760), (5789, 5791), (5881, 5887),
   (5910, 5918), (5943, 5951), (5972, 5983), (5997, 5997), (6001, 6001), (6004, 6015), (6110, 6111),
   (6122, 6127), (6138, 6143), (6170, 6175), (6265, 6271), (6315, 6319), (6390, 6399), (6431, 6431),
   (6444, 6447), (6460, 6463), (6465, 6467), (6510, 6511), (6517, 6527), (6572, 6575), (6602, 6607),
   (6619, 6621), (6684, 6685), (6751, 6751), (6781, 6782), (6794, 6799), (6810, 6815), (6830, 6831),
   (6878, 6879), (6892, 6911), (6989, 6989), (7156, 7163), (7224, 7226), (7242, 7244), (7307, 7311),
   (7355, 7356), (7368, 7375), (7419, 7423), (7958, 7959), (7966, 7967), (8006, 8007), (8014, 8015),
   (8024, 8024), (8026, 8026), (8028, 8028), (8030, 8030), (8062, 8063), (8117, 8117), (8133, 8133),
   (8148, 8149), (8156, 8156), (8176, 8177), (8181, 8181), (8191, 8191), (8206, 8207), (8228, 8230),
   (8232, 8238), (8293, 8297), (8306, 8307), (8335, 8335), (8349, 8351), (8386, 8399), (8433, 8447),
   (8588, 8591), (9258, 9279), (9291, 9311), (9352, 9371), (11124, 11125), (11508, 11512),
   (11558, 11558), (11560, 11564), (11566, 11567), (11624, 11630), (11633, 11646), (11671, 11679),
   (11687, 11687), (11695, 11695), (11703, 11703), (11711, 11711), (11719, 11719), (11727, 11727),
   (11735, 11735), (11743, 11743), (11870, 11903), (11930, 11930), (12020, 12031), (12246, 12287),
   (12352, 12352), (12439, 12440), (12544, 12548), (12592, 12592), (12687, 12687), (12774, 12783),
   (12831, 12831), (13250, 13250), (13255, 13255), (13272, 13272), (42125, 42127), (42183, 42191),
   (42540, 42559), (42744, 42751), (42973, 42992), (43053, 43055), (43066, 43071), (43128, 43135),
   (43206, 43213), (43226, 43231), (43348, 43358), (43389, 43391), (43470, 43470), (43482, 43485),
   (43519, 43519), (43575, 43583), (43598, 43599), (43610, 43611), (43715, 43738), (43767, 43776),
   (43783, 43784), (43791, 43792), (43799, 43807), (43815, 43815), (43823, 43823), (43884, 43887),
   (44014, 44015), (44026, 44031), (55204, 55215), (55239, 55242), (55292, 63743), (64110, 64111),
   (64218, 64255), (64263, 64274), (64280, 64284), (64311, 64311), (64317, 64317), (64319, 64319),
   (64322, 64322), (64325, 64325), (64976, 65007), (65042, 65042), (65049, 65055), (65072, 65072),
   (65106, 65107), (65127, 65127), (65132, 65135), (65141, 65141), (65277, 65278), (65280, 65280),
   (65471, 65473), (65480, 65481), (65488, 65489), (65496, 65497), (65501, 65503), (65511, 65511),
   (65519, 65535), (65548, 65548), (65575, 65575), (65595, 65595), (65598, 65598), (65614, 65615),
   (65630, 65663), (65787, 65791), (65795, 65798), (65844, 65846), (65935, 65935), (65949, 65951),
   (65953, 65999), (66046, 66175), (66205, 66207), (66257, 66271), (66300, 66303), (66340, 66348),
   (66379, 66383), (66427, 66431), (66462, 66462), (66500, 66503), (66518, 66559), (66718, 66719),
   (66730, 66735), (66772, 66775), (66812, 66815), (66856, 66863), (66916, 66926), (66939, 66939),
   (66955, 66955), (66963, 66963), (66966, 66966), (66978, 66978), (66994, 66994), (67002, 67002),
   (67005, 67007), (67060, 67071), (67383, 67391), (67414, 67423), (67432, 67455), (67462, 67462),
   (67505, 67505), (67515, 67583), (67590, 67591), (67593, 67593), (67638, 67638), (67641, 67643),
   (67645, 67646), (67670, 67670), (67743, 67750), (67760, 67807), (67827, 67827), (67830, 67834),
   (67868, 67870), (67898, 67902), (67930, 67967), (68024, 68027), (68048, 68049), (68100, 68100),
   (68103, 68107), (68116, 68116), (68120, 68120), (68150, 68151), (68155, 68158), (68169, 68175),
   (68185, 68191), (68256, 68287), (68327, 68330), (68343, 68351), (68406, 68408), (68438, 68439),
   (68467, 68471), (68498, 68504), (68509, 68520), (68528, 68607), (68681, 68735), (68787, 68799),
   (68851, 68857), (68904, 68911), (68922, 68927), (68966, 68968), (68998, 69005), (69008, 69215),
   (69247, 69247), (69290, 69290), (69294, 69295), (69298, 69313), (69320, 69327), (69337, 69369),
   (69416, 69423), (69466, 69487), (69514, 69551), (69580, 69599), (69623, 69631), (69710, 69713),
   (69750, 69758), (69821, 69821), (69827, 69839), (69865, 69871), (69882, 69887), (69941, 69941),
   (69960, 69967), (70007, 70015), (70112, 70112), (70133, 70143), (70162, 70162), (70210, 70271),
   (70279, 70279), (70281, 70281), (70286, 70286), (70302, 70302), (70314, 70319), (70379, 70383),
   (70394, 70399), (70404, 70404), (70413, 70414), (70417, 70418), (70441, 70441), (70449, 70449),
   (70452, 70452), (70458, 70458), (70469, 70470), (70473, 70474), (70478, 70479), (70481, 70486),
   (70488, 70492), (70500, 70501), (70509, 70511), (70517, 70527), (70538, 70538), (70540, 70541),
   (70543, 70543), (70582, 70582), (70593, 70593), (70595, 70596), (70598, 70598), (70603, 70603),
   (70614, 70614), (70617, 70624), (70627, 70655), (70748, 70748), (70754, 70783), (70856, 70863),
   (70874, 71039), (71094, 71095), (71134, 71167), (71237, 71247), (71258, 71263), (71277, 71295),
   (71354, 71359), (71370, 71375), (71396, 71423), (71451, 71452), (71468, 71471), (71495, 71679),
   (71740, 71839), (71923, 71934), (71943, 71944), (71946, 71947), (71956, 71956), (71959, 71959),
   (71990, 71990), (71993, 71994), (72007, 72015), (72026, 72095), (72104, 72105), (72152, 72153),
   (72165, 72191), (72264, 72271), (72355, 72367), (72441, 72447), (72458, 72543), (72552, 72639),
   (72674, 72687), (72698, 72703), (72713, 72713), (72759, 72759), (72774, 72783), (72813, 72815),
   (72848, 72849), (72872, 72872), (72887, 72959), (72967, 72967), (72970, 72970), (73015, 73017),
   (73019, 73019), (73022, 73022), (73032, 73039), (73050, 73055), (73062, 73062), (73065, 73065),
   (73103, 73103), (73106, 73106), (73113, 73119), (73130, 73135), (73180, 73183), (73194, 73439),
   (73465, 73471), (73489, 73489), (73531, 73533), (73563, 73647), (73649, 73663), (73714, 73726),
   (74650, 74751), (74863, 74863), (74869, 74879), (75076, 77711), (77811, 77823), (78896, 78911),
   (78934, 78943), (82939, 82943), (83527, 90367), (90426, 92159), (92729, 92735), (92767, 92767),
   (92778, 92781), (92863, 92863), (92874, 92879), (92910, 92911), (92918, 92927), (92998, 93007),
   (93018, 93018), (93026, 93026), (93048, 93052), (93072, 93503), (93562, 93759), (93851, 93855),
   (93881, 93882), (93908, 93951), (94027, 94030), (94088, 94094), (94112, 94175), (94181, 94191),
   (94199, 94207), (101590, 101630), (101663, 101759), (101875, 110575), (110580, 110580),
   (110588, 110588), (110591, 110591), (110883, 110897), (110899, 110927), (110931, 110932),
   (110934, 110947), (110952, 110959), (111356, 113663), (113771, 113775), (113789, 113791),
   (113801, 113807), (113818, 113819), (113828, 117759), (118013, 118015), (118452, 118457),
   (118481, 118495), (118513, 118527), (118574, 118575), (118599, 118607), (118724, 118783),
   (119030, 119039), (119079, 119080), (119275, 119295), (119366, 119487), (119508, 119519),
   (119540, 119551), (119639, 119647), (119673, 119807), (119893, 119893), (119965, 119965),
   (119968, 119969), (119971, 119972), (119975, 119976), (119981, 119981), (119994, 119994),
   (119996, 119996), (120004, 120004), (120070, 120070), (120075, 120076), (120085, 120085),
   (120093, 120093), (120122, 120122), (120127, 120127), (120133, 120133), (120135, 120137),
   (120145, 120145), (120486, 120487), (120780, 120781), (121484, 121498), (121504, 121504),
   (121520, 122623), (122655, 122660), (122667, 122879), (122887, 122887), (122905, 122906),
   (122914, 122914), (122917, 122917), (122923, 122927), (122990, 123022), (123024, 123135),
   (123181, 123183), (123198, 123199), (123210, 123213), (123216, 123535), (123567, 123583),
   (123642, 123646), (123648, 124111), (124154, 124367), (124411, 124414), (124416, 124607),
   (124639, 124639), (124662, 124669), (124672, 124895), (124903, 124903), (124908, 124908),
   (124911, 124911), (124927, 124927), (125125, 125126), (125143, 125183), (125260, 125263),
   (125274, 125277), (125280, 126064), (126133, 126208), (126270, 126463), (126468, 126468),
   (126496, 126496), (126499, 126499), (126501, 126502), (126504, 126504), (126515, 126515),
   (126520, 126520), (126522, 126522), (126524, 126529), (126531, 126534), (126536, 126536),
   (126538, 126538), (126540, 126540), (126544, 126544), (126547, 126547), (126549, 126550),
   (126552, 126552), (126554, 126554), (126556, 126556), (126558, 126558), (126560, 126560),
   (126563, 126563), (126565, 126566), (126571, 126571), (126579, 126579), (126584, 126584),
   (126589, 126589), (126591, 126591), (126602, 126602), (126620, 126624), (126628, 126628),
   (126634, 126634), (126652, 126703), (126706, 126975), (127020, 127023), (127124, 127135),
   (127151, 127152), (127168, 127168), (127184, 127184), (127222, 127232), (127406, 127461),
   (127491, 127503), (127548, 127551), (127561, 127567), (127570, 127583), (127590, 127743),
   (128729, 128731), (128749, 128751), (128765, 128767), (128986, 128991), (129004, 129007),
   (129009, 129023), (129036, 129039), (129096, 129103), (129114, 129119), (129160, 129167),
   (129198, 129199), (129212, 129215), (129218, 129231), (129241, 129279), (129624, 129631),
   (129646, 129647), (129661, 129663), (129675, 129677), (129735, 129735), (129737, 129740),
   (129757, 129758), (129771, 129774), (129785, 129791), (129939, 129939), (130043, 131071),
   (173792, 173823), (178206, 178207), (183982, 183983), (191457, 191471), (192094, 194559),
   (195102, 196607), (201547, 201551), (210042, 917759), (918000, 1114111)]

/-- What the `n`th character stands for by the rows, whose texts `cut` divides. -/
def mapByRows (cut : String → List (List Char)) (n : Nat) (rows : List (Nat × String)) :
    Option (List Char) :=
  rows.findSome? fun (first, targets) =>
    if first ≤ n then (cut targets)[n - first]? else none

/-- What a character stands for, or none if it may not occur. -/
def mapped? (c : Char) : Option (List Char) :=
  let n := c.toNat
  if n < 128 then some [c.toLower]
  else if Text.inRanges n disallowedRanges then none
  else if Text.inRanges n ignoredRanges then some []
  else
    some <| ((Text.convertByRuns n mappedRuns).map ([·]))
      |>.or (mapByRows (fun s => s.toList.map ([·])) n mappedRows)
      |>.or (mapByRows (fun s => Text.splitChars '|' s.toList) n expandedRows)
      |>.getD [c]

end ApiRecovery.Domain
