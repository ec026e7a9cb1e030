import SearchAnnotation.Encoding.Table

/-!
# Korean characters

The basic set has ninety-four rows of ninety-four cells, numbered by two seven-bit octets. An
extension adds the other syllables by pairs of octets.
-/

namespace SearchAnnotation.Encoding.Table

/-- The basic set. -/
def ksBasic : Table where
  spans := [
    (0x2134, 0x213d, 0x3008), (0x2321, 0x235b, 0xff01), (0x235d, 0x237d, 0xff3d),
    (0x2421, 0x247e, 0x3131), (0x2521, 0x252a, 0x2170), (0x2530, 0x2539, 0x2160),
    (0x2541, 0x2551, 0x391), (0x2561, 0x2571, 0x3b1), (0x265d, 0x2664, 0x2543),
    (0x272b, 0x2734, 0x3399), (0x273f, 0x2748, 0x33b0), (0x2831, 0x284c, 0x3260),
    (0x284d, 0x2866, 0x24d0), (0x2867, 0x2875, 0x2460), (0x2931, 0x294c, 0x3200),
    (0x294d, 0x2966, 0x249c), (0x2967, 0x2975, 0x2474), (0x2a21, 0x2a73, 0x3041),
    (0x2b21, 0x2b76, 0x30a1), (0x2c28, 0x2c41, 0x416), (0x2c58, 0x2c71, 0x436),
    (0x3028, 0x302f, 0xac10), (0x4040, 0x4047, 0xc751), (0x524d, 0x5257, 0xf939),
    (0x5264, 0x526b, 0xf94a)]
  runs := [
    (0x2121, "\u3000、。·‥…¨〃\u00ad―∥＼∼‘’“”〔〕"),
    (0x213e, "±×÷≠≤≥∞∴°′″℃Å￠￡￥♂♀∠⊥⌒∂∇≡≒§※☆★○●◎◇◆□■△▲▽▼→←↑↓↔〓≪"), (0x216d, "≫√∽∝∵∫∬∈∋⊆⊇⊂⊃∪∩∧∨￢"),
    (0x2221, "⇒⇔∀∃´～ˇ˘˝˚˙¸˛¡¿ː∮∑∏¤℉‰◁◀▷▶♤♠♡♥♧♣⊙◈▣◐◑▒▤▥▨▧▦▩♨☏☎"),
    (0x2250, "☜☞¶†‡↕↗↙↖↘♭♩♪♬㉿㈜№㏇™㏂㏘℡€®"), (0x235c, "￦"), (0x237e, "￣"), (0x2552, "ΣΤΥΦΧΨΩ"),
    (0x2572, "στυφχψω"), (0x2621, "─│┌┐┘└├┬┤┴┼━┃┏┓┛┗┣┳┫┻╋┠┯┨┷┿┝┰┥┸╂┒┑┚┙┖┕┎┍┞┟┡┢┦┧┩"),
    (0x2650, "┪┭┮┱┲┵┶┹┺┽┾╀╁"), (0x2721, "㎕㎖㎗ℓ㎘㏄㎣㎤㎥㎦"), (0x2735, "㏊㎍㎎㎏㏏㎈㎉㏈㎧㎨"),
    (0x2749, "㎀㎁㎂㎃㎄㎺㎻㎼㎽㎾㎿㎐㎑㎒㎓㎔Ω㏀㏁㎊㎋㎌㏖㏅㎭㎮㎯㏛㎩㎪㎫㎬㏝㏐㏓㏃㏉㏜㏆"),
    (0x2821, "ÆÐªĦ"), (0x2826, "Ĳ"), (0x2828, "ĿŁØŒºÞŦŊ"), (0x2876, "½⅓⅔¼¾⅛⅜⅝⅞"),
    (0x2921, "æđðħıĳĸŀłøœßþŧŋŉ"), (0x2976, "¹²³⁴ⁿ₁₂₃₄"), (0x2c21, "АБВГДЕЁ"), (0x2c51, "абвгдеё"),
    (0x3021, "가각간갇갈갉갊"), (0x3030, "같갚갛개객갠갤갬갭갯갰갱갸갹갼걀걋걍걔걘걜거걱건걷걸걺검겁것겄겅겆겉겊겋게겐겔겜겝겟겠겡겨격겪"),
    (0x305f, "견겯결겸겹겻겼경곁계곈곌곕곗고곡곤곧골곪곬곯곰곱곳공곶과곽관괄괆"),
    (0x3121, "괌괍괏광괘괜괠괩괬괭괴괵괸괼굄굅굇굉교굔굘굡굣구국군굳굴굵굶굻굼굽굿궁궂궈궉권궐궜궝궤궷귀귁귄"),
    (0x3150, "귈귐귑귓규균귤그극근귿글긁금급긋긍긔기긱긴긷길긺김깁깃깅깆깊까깍깎깐깔깖깜깝깟깠깡깥깨깩깬깰깸"),
    (0x3221, "깹깻깼깽꺄꺅꺌꺼꺽꺾껀껄껌껍껏껐껑께껙껜껨껫껭껴껸껼꼇꼈꼍꼐꼬꼭꼰꼲꼴꼼꼽꼿꽁꽂꽃꽈꽉꽐꽜꽝꽤"),
    (0x3250, "꽥꽹꾀꾄꾈꾐꾑꾕꾜꾸꾹꾼꿀꿇꿈꿉꿋꿍꿎꿔꿜꿨꿩꿰꿱꿴꿸뀀뀁뀄뀌뀐뀔뀜뀝뀨끄끅끈끊끌끎끓끔끕끗끙"),
    (0x3321, "끝끼끽낀낄낌낍낏낑나낙낚난낟날낡낢남납낫났낭낮낯낱낳내낵낸낼냄냅냇냈냉냐냑냔냘냠냥너넉넋넌널넒"),
    (0x3350, "넓넘넙넛넜넝넣네넥넨넬넴넵넷넸넹녀녁년녈념녑녔녕녘녜녠노녹논놀놂놈놉놋농높놓놔놘놜놨뇌뇐뇔뇜뇝"),
    (0x3421, "뇟뇨뇩뇬뇰뇹뇻뇽누눅눈눋눌눔눕눗눙눠눴눼뉘뉜뉠뉨뉩뉴뉵뉼늄늅늉느늑는늘늙늚늠늡늣능늦늪늬늰늴니"),
    (0x3450, "닉닌닐닒님닙닛닝닢다닥닦단닫달닭닮닯닳담답닷닸당닺닻닿대댁댄댈댐댑댓댔댕댜더덕덖던덛덜덞덟덤덥"),
    (0x3521, "덧덩덫덮데덱덴델뎀뎁뎃뎄뎅뎌뎐뎔뎠뎡뎨뎬도독돈돋돌돎돐돔돕돗동돛돝돠돤돨돼됐되된될됨됩됫됴두둑"),
    (0x3550, "둔둘둠둡둣둥둬뒀뒈뒝뒤뒨뒬뒵뒷뒹듀듄듈듐듕드득든듣들듦듬듭듯등듸디딕딘딛딜딤딥딧딨딩딪따딱딴딸"),
    (0x3621, "땀땁땃땄땅땋때땍땐땔땜땝땟땠땡떠떡떤떨떪떫떰떱떳떴떵떻떼떽뗀뗄뗌뗍뗏뗐뗑뗘뗬또똑똔똘똥똬똴뙈뙤"),
    (0x3650, "뙨뚜뚝뚠뚤뚫뚬뚱뛔뛰뛴뛸뜀뜁뜅뜨뜩뜬뜯뜰뜸뜹뜻띄띈띌띔띕띠띤띨띰띱띳띵라락란랄람랍랏랐랑랒랖랗"),
    (0x3721, "래랙랜랠램랩랫랬랭랴략랸럇량러럭런럴럼럽럿렀렁렇레렉렌렐렘렙렛렝려력련렬렴렵렷렸령례롄롑롓로록"),
    (0x3750, "론롤롬롭롯롱롸롼뢍뢨뢰뢴뢸룀룁룃룅료룐룔룝룟룡루룩룬룰룸룹룻룽뤄뤘뤠뤼뤽륀륄륌륏륑류륙륜률륨륩"),
    (0x3821, "륫륭르륵른를름릅릇릉릊릍릎리릭린릴림립릿링마막만많맏말맑맒맘맙맛망맞맡맣매맥맨맬맴맵맷맸맹맺먀"),
    (0x3850, "먁먈먕머먹먼멀멂멈멉멋멍멎멓메멕멘멜멤멥멧멨멩며멱면멸몃몄명몇몌모목몫몬몰몲몸몹못몽뫄뫈뫘뫙뫼"),
    (0x3921, "묀묄묍묏묑묘묜묠묩묫무묵묶문묻물묽묾뭄뭅뭇뭉뭍뭏뭐뭔뭘뭡뭣뭬뮈뮌뮐뮤뮨뮬뮴뮷므믄믈믐믓미믹민믿"),
    (0x3950, "밀밂밈밉밋밌밍및밑바박밖밗반받발밝밞밟밤밥밧방밭배백밴밸뱀뱁뱃뱄뱅뱉뱌뱍뱐뱝버벅번벋벌벎범법벗"),
    (0x3a21, "벙벚베벡벤벧벨벰벱벳벴벵벼벽변별볍볏볐병볕볘볜보복볶본볼봄봅봇봉봐봔봤봬뵀뵈뵉뵌뵐뵘뵙뵤뵨부북"),
    (0x3a50, "분붇불붉붊붐붑붓붕붙붚붜붤붰붸뷔뷕뷘뷜뷩뷰뷴뷸븀븃븅브븍븐블븜븝븟비빅빈빌빎빔빕빗빙빚빛빠빡빤"),
    (0x3b21, "빨빪빰빱빳빴빵빻빼빽뺀뺄뺌뺍뺏뺐뺑뺘뺙뺨뻐뻑뻔뻗뻘뻠뻣뻤뻥뻬뼁뼈뼉뼘뼙뼛뼜뼝뽀뽁뽄뽈뽐뽑뽕뾔뾰"),
    (0x3b50, "뿅뿌뿍뿐뿔뿜뿟뿡쀼쁑쁘쁜쁠쁨쁩삐삑삔삘삠삡삣삥사삭삯산삳살삵삶삼삽삿샀상샅새색샌샐샘샙샛샜생샤"),
    (0x3c21, "샥샨샬샴샵샷샹섀섄섈섐섕서석섞섟선섣설섦섧섬섭섯섰성섶세섹센셀셈셉셋셌셍셔셕션셜셤셥셧셨셩셰셴"),
    (0x3c50, "셸솅소속솎손솔솖솜솝솟송솥솨솩솬솰솽쇄쇈쇌쇔쇗쇘쇠쇤쇨쇰쇱쇳쇼쇽숀숄숌숍숏숑수숙순숟술숨숩숫숭"),
    (0x3d21, "숯숱숲숴쉈쉐쉑쉔쉘쉠쉥쉬쉭쉰쉴쉼쉽쉿슁슈슉슐슘슛슝스슥슨슬슭슴습슷승시식신싣실싫심십싯싱싶싸싹"),
    (0x3d50, "싻싼쌀쌈쌉쌌쌍쌓쌔쌕쌘쌜쌤쌥쌨쌩썅써썩썬썰썲썸썹썼썽쎄쎈쎌쏀쏘쏙쏜쏟쏠쏢쏨쏩쏭쏴쏵쏸쐈쐐쐤쐬쐰"),
    (0x3e21, "쐴쐼쐽쑈쑤쑥쑨쑬쑴쑵쑹쒀쒔쒜쒸쒼쓩쓰쓱쓴쓸쓺쓿씀씁씌씐씔씜씨씩씬씰씸씹씻씽아악안앉않알앍앎앓암"),
    (0x3e50, "압앗았앙앝앞애액앤앨앰앱앳앴앵야약얀얄얇얌얍얏양얕얗얘얜얠얩어억언얹얻얼얽얾엄업없엇었엉엊엌엎"),
    (0x3f21, "에엑엔엘엠엡엣엥여역엮연열엶엷염엽엾엿였영옅옆옇예옌옐옘옙옛옜오옥온올옭옮옰옳옴옵옷옹옻와왁완"),
    (0x3f50, "왈왐왑왓왔왕왜왝왠왬왯왱외왹왼욀욈욉욋욍요욕욘욜욤욥욧용우욱운울욹욺움웁웃웅워웍원월웜웝웠웡웨"),
    (0x4021, "웩웬웰웸웹웽위윅윈윌윔윕윗윙유육윤율윰윱윳융윷으윽은을읊음읍읏"),
    (0x4048, "읜읠읨읫이익인일읽읾잃임입잇있잉잊잎자작잔잖잗잘잚잠잡잣잤장잦재잭잰잴잼잽잿쟀쟁쟈쟉쟌쟎쟐쟘쟝"),
    (0x4077, "쟤쟨쟬저적전절젊"), (0x4121, "점접젓정젖제젝젠젤젬젭젯젱져젼졀졈졉졌졍졔조족존졸졺좀좁좃종좆좇좋좌좍좔좝좟좡좨좼좽죄죈죌죔죕"),
    (0x4150, "죗죙죠죡죤죵주죽준줄줅줆줌줍줏중줘줬줴쥐쥑쥔쥘쥠쥡쥣쥬쥰쥴쥼즈즉즌즐즘즙즛증지직진짇질짊짐집짓"),
    (0x4221, "징짖짙짚짜짝짠짢짤짧짬짭짯짰짱째짹짼쨀쨈쨉쨋쨌쨍쨔쨘쨩쩌쩍쩐쩔쩜쩝쩟쩠쩡쩨쩽쪄쪘쪼쪽쫀쫄쫌쫍쫏"),
    (0x4250, "쫑쫓쫘쫙쫠쫬쫴쬈쬐쬔쬘쬠쬡쭁쭈쭉쭌쭐쭘쭙쭝쭤쭸쭹쮜쮸쯔쯤쯧쯩찌찍찐찔찜찝찡찢찧차착찬찮찰참찹찻"),
    (0x4321, "찼창찾채책챈챌챔챕챗챘챙챠챤챦챨챰챵처척천철첨첩첫첬청체첵첸첼쳄쳅쳇쳉쳐쳔쳤쳬쳰촁초촉촌촐촘촙"),
    (0x4350, "촛총촤촨촬촹최쵠쵤쵬쵭쵯쵱쵸춈추축춘출춤춥춧충춰췄췌췐취췬췰췸췹췻췽츄츈츌츔츙츠측츤츨츰츱츳층"),
    (0x4421, "치칙친칟칠칡침칩칫칭카칵칸칼캄캅캇캉캐캑캔캘캠캡캣캤캥캬캭컁커컥컨컫컬컴컵컷컸컹케켁켄켈켐켑켓"),
    (0x4450, "켕켜켠켤켬켭켯켰켱켸코콕콘콜콤콥콧콩콰콱콴콸쾀쾅쾌쾡쾨쾰쿄쿠쿡쿤쿨쿰쿱쿳쿵쿼퀀퀄퀑퀘퀭퀴퀵퀸퀼"),
    (0x4521, "큄큅큇큉큐큔큘큠크큭큰클큼큽킁키킥킨킬킴킵킷킹타탁탄탈탉탐탑탓탔탕태택탠탤탬탭탯탰탱탸턍터턱턴"),
    (0x4550, "털턺텀텁텃텄텅테텍텐텔템텝텟텡텨텬텼톄톈토톡톤톨톰톱톳통톺톼퇀퇘퇴퇸툇툉툐투툭툰툴툼툽툿퉁퉈퉜"),
    (0x4621, "퉤튀튁튄튈튐튑튕튜튠튤튬튱트특튼튿틀틂틈틉틋틔틘틜틤틥티틱틴틸팀팁팃팅파팍팎판팔팖팜팝팟팠팡팥"),
    (0x4650, "패팩팬팰팸팹팻팼팽퍄퍅퍼퍽펀펄펌펍펏펐펑페펙펜펠펨펩펫펭펴편펼폄폅폈평폐폘폡폣포폭폰폴폼폽폿퐁"),
    (0x4721, "퐈퐝푀푄표푠푤푭푯푸푹푼푿풀풂품풉풋풍풔풩퓌퓐퓔퓜퓟퓨퓬퓰퓸퓻퓽프픈플픔픕픗피픽핀필핌핍핏핑하"),
    (0x4750, "학한할핥함합핫항해핵핸핼햄햅햇했행햐향허헉헌헐헒험헙헛헝헤헥헨헬헴헵헷헹혀혁현혈혐협혓혔형혜혠"),
    (0x4821, "혤혭호혹혼홀홅홈홉홋홍홑화확환활홧황홰홱홴횃횅회획횐횔횝횟횡효횬횰횹횻후훅훈훌훑훔훗훙훠훤훨훰"),
    (0x4850, "훵훼훽휀휄휑휘휙휜휠휨휩휫휭휴휵휸휼흄흇흉흐흑흔흖흗흘흙흠흡흣흥흩희흰흴흼흽힁히힉힌힐힘힙힛힝"),
    (0x4a21, "伽佳假價加可呵哥嘉嫁家暇架枷柯歌珂痂稼苛茄街袈訶賈跏軻迦駕刻却各恪慤殼珏脚覺角閣侃刊墾奸姦干幹"),
    (0x4a50, "懇揀杆柬桿澗癎看磵稈竿簡肝艮艱諫間乫喝曷渴碣竭葛褐蝎鞨勘坎堪嵌感憾戡敢柑橄減甘疳監瞰紺邯鑑鑒龕"),
    (0x4b21, "匣岬甲胛鉀閘剛堈姜岡崗康强彊慷江畺疆糠絳綱羌腔舡薑襁講鋼降鱇介价個凱塏愷愾慨改槪漑疥皆盖箇芥蓋"),
    (0x4b50, "豈鎧開喀客坑更粳羹醵倨去居巨拒据據擧渠炬祛距踞車遽鉅鋸乾件健巾建愆楗腱虔蹇鍵騫乞傑杰桀儉劍劒檢"),
    (0x4c21, "瞼鈐黔劫怯迲偈憩揭擊格檄激膈覡隔堅牽犬甄絹繭肩見譴遣鵑抉決潔結缺訣兼慊箝謙鉗鎌京俓倞傾儆勁勍卿"),
    (0x4c50, "坰境庚徑慶憬擎敬景暻更梗涇炅烱璟璥瓊痙硬磬竟競絅經耕耿脛莖警輕逕鏡頃頸驚鯨係啓堺契季屆悸戒桂械"),
    (0x4d21, "棨溪界癸磎稽系繫繼計誡谿階鷄古叩告呱固姑孤尻庫拷攷故敲暠枯槁沽痼皐睾稿羔考股膏苦苽菰藁蠱袴誥賈"),
    (0x4d50, "辜錮雇顧高鼓哭斛曲梏穀谷鵠困坤崑昆梱棍滾琨袞鯤汨滑骨供公共功孔工恐恭拱控攻珙空蚣貢鞏串寡戈果瓜"),
    (0x4e21, "科菓誇課跨過鍋顆廓槨藿郭串冠官寬慣棺款灌琯瓘管罐菅觀貫關館刮恝括适侊光匡壙廣曠洸炚狂珖筐胱鑛卦"),
    (0x4e50, "掛罫乖傀塊壞怪愧拐槐魁宏紘肱轟交僑咬喬嬌嶠巧攪敎校橋狡皎矯絞翹膠蕎蛟較轎郊餃驕鮫丘久九仇俱具勾"),
    (0x4f21, "區口句咎嘔坵垢寇嶇廐懼拘救枸柩構歐毆毬求溝灸狗玖球瞿矩究絿耉臼舅舊苟衢謳購軀逑邱鉤銶駒驅鳩鷗龜"),
    (0x4f50, "國局菊鞠鞫麴君窘群裙軍郡堀屈掘窟宮弓穹窮芎躬倦券勸卷圈拳捲權淃眷厥獗蕨蹶闕机櫃潰詭軌饋句晷歸貴"),
    (0x5021, "鬼龜叫圭奎揆槻珪硅窺竅糾葵規赳逵閨勻均畇筠菌鈞龜橘克剋劇戟棘極隙僅劤勤懃斤根槿瑾筋芹菫覲謹近饉"),
    (0x5050, "契今妗擒昑檎琴禁禽芩衾衿襟金錦伋及急扱汲級給亘兢矜肯企伎其冀嗜器圻基埼夔奇妓寄岐崎己幾忌技旗旣"),
    (0x5121, "朞期杞棋棄機欺氣汽沂淇玘琦琪璂璣畸畿碁磯祁祇祈祺箕紀綺羈耆耭肌記譏豈起錡錤飢饑騎騏驥麒緊佶吉拮"),
    (0x5150, "桔金喫儺喇奈娜懦懶拏拿癩羅蘿螺裸邏那樂洛烙珞落諾酪駱亂卵暖欄煖爛蘭難鸞捏捺南嵐枏楠湳濫男藍襤拉"),
    (0x5221, "納臘蠟衲囊娘廊朗浪狼郎乃來內奈柰耐冷女年撚秊念恬拈捻寧寗努勞奴弩怒擄櫓爐瑙盧老蘆虜路露駑"),
    (0x5258, "濃籠聾膿農惱牢磊腦賂雷尿"), (0x526c, "嫩訥杻紐勒肋凜凌稜綾能菱陵尼泥匿溺多茶"),
    (0x5321, "丹亶但單團壇彖斷旦檀段湍短端簞緞蛋袒鄲鍛撻澾獺疸達啖坍憺擔曇淡湛潭澹痰聃膽蕁覃談譚錟沓畓答踏遝"),
    (0x5350, "唐堂塘幢戇撞棠當糖螳黨代垈坮大對岱帶待戴擡玳臺袋貸隊黛宅德悳倒刀到圖堵塗導屠島嶋度徒悼挑掉搗桃"),
    (0x5421, "棹櫂淘渡滔濤燾盜睹禱稻萄覩賭跳蹈逃途道都鍍陶韜毒瀆牘犢獨督禿篤纛讀墩惇敦旽暾沌焞燉豚頓乭突仝冬"),
    (0x5450, "凍動同憧東桐棟洞潼疼瞳童胴董銅兜斗杜枓痘竇荳讀豆逗頭屯臀芚遁遯鈍得嶝橙燈登等藤謄鄧騰喇懶拏癩羅"),
    (0x5521, "蘿螺裸邏樂洛烙珞絡落諾酪駱丹亂卵欄欒瀾爛蘭鸞剌辣嵐擥攬欖濫籃纜藍襤覽拉臘蠟廊朗浪狼琅瑯螂郞來崍"),
    (0x5550, "徠萊冷掠略亮倆兩凉梁樑粮粱糧良諒輛量侶儷勵呂廬慮戾旅櫚濾礪藜蠣閭驢驪麗黎力曆歷瀝礫轢靂憐戀攣漣"),
    (0x5621, "煉璉練聯蓮輦連鍊冽列劣洌烈裂廉斂殮濂簾獵令伶囹寧岺嶺怜玲笭羚翎聆逞鈴零靈領齡例澧禮醴隷勞怒撈擄"),
    (0x5650, "櫓潞瀘爐盧老蘆虜路輅露魯鷺鹵碌祿綠菉錄鹿麓論壟弄朧瀧瓏籠聾儡瀨牢磊賂賚賴雷了僚寮廖料燎療瞭聊蓼"),
    (0x5721, "遼鬧龍壘婁屢樓淚漏瘻累縷蔞褸鏤陋劉旒柳榴流溜瀏琉瑠留瘤硫謬類六戮陸侖倫崙淪綸輪律慄栗率隆勒肋凜"),
    (0x5750, "凌楞稜綾菱陵俚利厘吏唎履悧李梨浬犁狸理璃異痢籬罹羸莉裏裡里釐離鯉吝潾燐璘藺躪隣鱗麟林淋琳臨霖砬"),
    (0x5821, "立笠粒摩瑪痲碼磨馬魔麻寞幕漠膜莫邈万卍娩巒彎慢挽晩曼滿漫灣瞞萬蔓蠻輓饅鰻唜抹末沫茉襪靺亡妄忘忙"),
    (0x5850, "望網罔芒茫莽輞邙埋妹媒寐昧枚梅每煤罵買賣邁魅脈貊陌驀麥孟氓猛盲盟萌冪覓免冕勉棉沔眄眠綿緬面麵滅"),
    (0x5921, "蔑冥名命明暝椧溟皿瞑茗蓂螟酩銘鳴袂侮冒募姆帽慕摸摹暮某模母毛牟牡瑁眸矛耗芼茅謀謨貌木沐牧目睦穆"),
    (0x5950, "鶩歿沒夢朦蒙卯墓妙廟描昴杳渺猫竗苗錨務巫憮懋戊拇撫无楙武毋無珷畝繆舞茂蕪誣貿霧鵡墨默們刎吻問文"),
    (0x5a21, "汶紊紋聞蚊門雯勿沕物味媚尾嵋彌微未梶楣渼湄眉米美薇謎迷靡黴岷悶愍憫敏旻旼民泯玟珉緡閔密蜜謐剝博"),
    (0x5a50, "拍搏撲朴樸泊珀璞箔粕縛膊舶薄迫雹駁伴半反叛拌搬攀斑槃泮潘班畔瘢盤盼磐磻礬絆般蟠返頒飯勃拔撥渤潑"),
    (0x5b21, "發跋醱鉢髮魃倣傍坊妨尨幇彷房放方旁昉枋榜滂磅紡肪膀舫芳蒡蚌訪謗邦防龐倍俳北培徘拜排杯湃焙盃背胚"),
    (0x5b50, "裴裵褙賠輩配陪伯佰帛柏栢白百魄幡樊煩燔番磻繁蕃藩飜伐筏罰閥凡帆梵氾汎泛犯範范法琺僻劈壁擘檗璧癖"),
    (0x5c21, "碧蘗闢霹便卞弁變辨辯邊別瞥鱉鼈丙倂兵屛幷昞昺柄棅炳甁病秉竝輧餠騈保堡報寶普步洑湺潽珤甫菩補褓譜"),
    (0x5c50, "輔伏僕匐卜宓復服福腹茯蔔複覆輹輻馥鰒本乶俸奉封峯峰捧棒烽熢琫縫蓬蜂逢鋒鳳不付俯傅剖副否咐埠夫婦"),
    (0x5d21, "孚孵富府復扶敷斧浮溥父符簿缶腐腑膚艀芙莩訃負賦賻赴趺部釜阜附駙鳧北分吩噴墳奔奮忿憤扮昐汾焚盆粉"),
    (0x5d50, "糞紛芬賁雰不佛弗彿拂崩朋棚硼繃鵬丕備匕匪卑妃婢庇悲憊扉批斐枇榧比毖毗毘沸泌琵痺砒碑秕秘粃緋翡肥"),
    (0x5e21, "脾臂菲蜚裨誹譬費鄙非飛鼻嚬嬪彬斌檳殯浜濱瀕牝玭貧賓頻憑氷聘騁乍事些仕伺似使俟僿史司唆嗣四士奢娑"),
    (0x5e50, "寫寺射巳師徙思捨斜斯柶査梭死沙泗渣瀉獅砂社祀祠私篩紗絲肆舍莎蓑蛇裟詐詞謝賜赦辭邪飼駟麝削數朔索"),
    (0x5f21, "傘刪山散汕珊産疝算蒜酸霰乷撒殺煞薩三參杉森渗芟蔘衫揷澁鈒颯上傷像償商喪嘗孀尙峠常床庠廂想桑橡湘"),
    (0x5f50, "爽牀狀相祥箱翔裳觴詳象賞霜塞璽賽嗇塞穡索色牲生甥省笙墅壻嶼序庶徐恕抒捿敍暑曙書栖棲犀瑞筮絮緖署"),
    (0x6021, "胥舒薯西誓逝鋤黍鼠夕奭席惜昔晳析汐淅潟石碩蓆釋錫仙僊先善嬋宣扇敾旋渲煽琁瑄璇璿癬禪線繕羨腺膳船"),
    (0x6050, "蘚蟬詵跣選銑鐥饍鮮卨屑楔泄洩渫舌薛褻設說雪齧剡暹殲纖蟾贍閃陝攝涉燮葉城姓宬性惺成星晟猩珹盛省筬"),
    (0x6121, "聖聲腥誠醒世勢歲洗稅笹細說貰召嘯塑宵小少巢所掃搔昭梳沼消溯瀟炤燒甦疏疎瘙笑篠簫素紹蔬蕭蘇訴逍遡"),
    (0x6150, "邵銷韶騷俗屬束涑粟續謖贖速孫巽損蓀遜飡率宋悚松淞訟誦送頌刷殺灑碎鎖衰釗修受嗽囚垂壽嫂守岫峀帥愁"),
    (0x6221, "戍手授搜收數樹殊水洙漱燧狩獸琇璲瘦睡秀穗竪粹綏綬繡羞脩茱蒐蓚藪袖誰讐輸遂邃酬銖銹隋隧隨雖需須首"),
    (0x6250, "髓鬚叔塾夙孰宿淑潚熟琡璹肅菽巡徇循恂旬栒楯橓殉洵淳珣盾瞬筍純脣舜荀蓴蕣詢諄醇錞順馴戌術述鉥崇崧"),
    (0x6321, "嵩瑟膝蝨濕拾習褶襲丞乘僧勝升承昇繩蠅陞侍匙嘶始媤尸屎屍市弑恃施是時枾柴猜矢示翅蒔蓍視試詩諡豕豺"),
    (0x6350, "埴寔式息拭植殖湜熄篒蝕識軾食飾伸侁信呻娠宸愼新晨燼申神紳腎臣莘薪藎蜃訊身辛辰迅失室實悉審尋心沁"),
    (0x6421, "沈深瀋甚芯諶什十拾雙氏亞俄兒啞娥峨我牙芽莪蛾衙訝阿雅餓鴉鵝堊岳嶽幄惡愕握樂渥鄂鍔顎鰐齷安岸按晏"),
    (0x6450, "案眼雁鞍顔鮟斡謁軋閼唵岩巖庵暗癌菴闇壓押狎鴨仰央怏昻殃秧鴦厓哀埃崖愛曖涯碍艾隘靄厄扼掖液縊腋額"),
    (0x6521, "櫻罌鶯鸚也倻冶夜惹揶椰爺耶若野弱掠略約若葯蒻藥躍亮佯兩凉壤孃恙揚攘敭暘梁楊樣洋瀁煬痒瘍禳穰糧羊"),
    (0x6550, "良襄諒讓釀陽量養圄御於漁瘀禦語馭魚齬億憶抑檍臆偃堰彦焉言諺孼蘖俺儼嚴奄掩淹嶪業円予余勵呂女如廬"),
    (0x6621, "旅歟汝濾璵礖礪與艅茹輿轝閭餘驪麗黎亦力域役易曆歷疫繹譯轢逆驛嚥堧姸娟宴年延憐戀捐挻撚椽沇沿涎涓"),
    (0x6650, "淵演漣烟然煙煉燃燕璉硏硯秊筵緣練縯聯衍軟輦蓮連鉛鍊鳶列劣咽悅涅烈熱裂說閱厭廉念捻染殮炎焰琰艶苒"),
    (0x6721, "簾閻髥鹽曄獵燁葉令囹塋寧嶺嶸影怜映暎楹榮永泳渶潁濚瀛瀯煐營獰玲瑛瑩瓔盈穎纓羚聆英詠迎鈴鍈零霙靈"),
    (0x6750, "領乂倪例刈叡曳汭濊猊睿穢芮藝蘂禮裔詣譽豫醴銳隸霓預五伍俉傲午吾吳嗚塢墺奧娛寤悟惡懊敖旿晤梧汚澳"),
    (0x6821, "烏熬獒筽蜈誤鰲鼇屋沃獄玉鈺溫瑥瘟穩縕蘊兀壅擁瓮甕癰翁邕雍饔渦瓦窩窪臥蛙蝸訛婉完宛梡椀浣玩琓琬碗"),
    (0x6850, "緩翫脘腕莞豌阮頑曰往旺枉汪王倭娃歪矮外嵬巍猥畏了僚僥凹堯夭妖姚寥寮尿嶢拗搖撓擾料曜樂橈燎燿瑤療"),
    (0x6921, "窈窯繇繞耀腰蓼蟯要謠遙遼邀饒慾欲浴縟褥辱俑傭冗勇埇墉容庸慂榕涌湧溶熔瑢用甬聳茸蓉踊鎔鏞龍于佑偶"),
    (0x6950, "優又友右宇寓尤愚憂旴牛玗瑀盂祐禑禹紆羽芋藕虞迂遇郵釪隅雨雩勖彧旭昱栯煜稶郁頊云暈橒殞澐熉耘芸蕓"),
    (0x6a21, "運隕雲韻蔚鬱亐熊雄元原員圓園垣媛嫄寃怨愿援沅洹湲源爰猿瑗苑袁轅遠阮院願鴛月越鉞位偉僞危圍委威尉"),
    (0x6a50, "慰暐渭爲瑋緯胃萎葦蔿蝟衛褘謂違韋魏乳侑儒兪劉唯喩孺宥幼幽庾悠惟愈愉揄攸有杻柔柚柳楡楢油洧流游溜"),
    (0x6b21, "濡猶猷琉瑜由留癒硫紐維臾萸裕誘諛諭踰蹂遊逾遺酉釉鍮類六堉戮毓肉育陸倫允奫尹崙淪潤玧胤贇輪鈗閏律"),
    (0x6b50, "慄栗率聿戎瀜絨融隆垠恩慇殷誾銀隱乙吟淫蔭陰音飮揖泣邑凝應膺鷹依倚儀宜意懿擬椅毅疑矣義艤薏蟻衣誼"),
    (0x6c21, "議醫二以伊利吏夷姨履已弛彛怡易李梨泥爾珥理異痍痢移罹而耳肄苡荑裏裡貽貳邇里離飴餌匿溺瀷益翊翌翼"),
    (0x6c50, "謚人仁刃印吝咽因姻寅引忍湮燐璘絪茵藺蚓認隣靭靷鱗麟一佚佾壹日溢逸鎰馹任壬妊姙恁林淋稔臨荏賃入卄"),
    (0x6d21, "立笠粒仍剩孕芿仔刺咨姉姿子字孜恣慈滋炙煮玆瓷疵磁紫者自茨蔗藉諮資雌作勺嚼斫昨灼炸爵綽芍酌雀鵲孱"),
    (0x6d50, "棧殘潺盞岑暫潛箴簪蠶雜丈仗匠場墻壯奬將帳庄張掌暲杖樟檣欌漿牆狀獐璋章粧腸臟臧莊葬蔣薔藏裝贓醬長"),
    (0x6e21, "障再哉在宰才材栽梓渽滓災縡裁財載齋齎爭箏諍錚佇低儲咀姐底抵杵楮樗沮渚狙猪疽箸紵苧菹著藷詛貯躇這"),
    (0x6e50, "邸雎齟勣吊嫡寂摘敵滴狄炙的積笛籍績翟荻謫賊赤跡蹟迪迹適鏑佃佺傳全典前剪塡塼奠專展廛悛戰栓殿氈澱"),
    (0x6f21, "煎琠田甸畑癲筌箋箭篆纏詮輾轉鈿銓錢鐫電顚顫餞切截折浙癤竊節絶占岾店漸点粘霑鮎點接摺蝶丁井亭停偵"),
    (0x6f50, "呈姃定幀庭廷征情挺政整旌晶晸柾楨檉正汀淀淨渟湞瀞炡玎珽町睛碇禎程穽精綎艇訂諪貞鄭酊釘鉦鋌錠霆靖"),
    (0x7021, "靜頂鼎制劑啼堤帝弟悌提梯濟祭第臍薺製諸蹄醍除際霽題齊俎兆凋助嘲弔彫措操早晁曺曹朝條棗槽漕潮照燥"),
    (0x7050, "爪璪眺祖祚租稠窕粗糟組繰肇藻蚤詔調趙躁造遭釣阻雕鳥族簇足鏃存尊卒拙猝倧宗從悰慫棕淙琮種終綜縱腫"),
    (0x7121, "踪踵鍾鐘佐坐左座挫罪主住侏做姝胄呪周嗾奏宙州廚晝朱柱株注洲湊澍炷珠疇籌紂紬綢舟蛛註誅走躊輳週酎"),
    (0x7150, "酒鑄駐竹粥俊儁准埈寯峻晙樽浚準濬焌畯竣蠢逡遵雋駿茁中仲衆重卽櫛楫汁葺增憎曾拯烝甑症繒蒸證贈之只"),
    (0x7221, "咫地址志持指摯支旨智枝枳止池沚漬知砥祉祗紙肢脂至芝芷蜘誌識贄趾遲直稙稷織職唇嗔塵振搢晉晋桭榛殄"),
    (0x7250, "津溱珍瑨璡畛疹盡眞瞋秦縉縝臻蔯袗診賑軫辰進鎭陣陳震侄叱姪嫉帙桎瓆疾秩窒膣蛭質跌迭斟朕什執潗緝輯"),
    (0x7321, "鏶集徵懲澄且侘借叉嗟嵯差次此磋箚茶蹉車遮捉搾着窄錯鑿齪撰澯燦璨瓚竄簒纂粲纘讚贊鑽餐饌刹察擦札紮"),
    (0x7350, "僭參塹慘慙懺斬站讒讖倉倡創唱娼廠彰愴敞昌昶暢槍滄漲猖瘡窓脹艙菖蒼債埰寀寨彩採砦綵菜蔡采釵冊柵策"),
    (0x7421, "責凄妻悽處倜刺剔尺慽戚拓擲斥滌瘠脊蹠陟隻仟千喘天川擅泉淺玔穿舛薦賤踐遷釧闡阡韆凸哲喆徹撤澈綴輟"),
    (0x7450, "轍鐵僉尖沾添甛瞻簽籤詹諂堞妾帖捷牒疊睫諜貼輒廳晴淸聽菁請靑鯖切剃替涕滯締諦逮遞體初剿哨憔抄招梢"),
    (0x7521, "椒楚樵炒焦硝礁礎秒稍肖艸苕草蕉貂超酢醋醮促囑燭矗蜀觸寸忖村邨叢塚寵悤憁摠總聰蔥銃撮催崔最墜抽推"),
    (0x7550, "椎楸樞湫皺秋芻萩諏趨追鄒酋醜錐錘鎚雛騶鰍丑畜祝竺筑築縮蓄蹙蹴軸逐春椿瑃出朮黜充忠沖蟲衝衷悴膵萃"),
    (0x7621, "贅取吹嘴娶就炊翠聚脆臭趣醉驟鷲側仄厠惻測層侈値嗤峙幟恥梔治淄熾痔痴癡稚穉緇緻置致蚩輜雉馳齒則勅"),
    (0x7650, "飭親七柒漆侵寢枕沈浸琛砧針鍼蟄秤稱快他咤唾墮妥惰打拖朶楕舵陀馱駝倬卓啄坼度托拓擢晫柝濁濯琢琸託"),
    (0x7721, "鐸呑嘆坦彈憚歎灘炭綻誕奪脫探眈耽貪塔搭榻宕帑湯糖蕩兌台太怠態殆汰泰笞胎苔跆邰颱宅擇澤撑攄兎吐土"),
    (0x7750, "討慟桶洞痛筒統通堆槌腿褪退頹偸套妬投透鬪慝特闖坡婆巴把播擺杷波派爬琶破罷芭跛頗判坂板版瓣販辦鈑"),
    (0x7821, "阪八叭捌佩唄悖敗沛浿牌狽稗覇貝彭澎烹膨愎便偏扁片篇編翩遍鞭騙貶坪平枰萍評吠嬖幣廢弊斃肺蔽閉陛佈"),
    (0x7850, "包匍匏咆哺圃布怖抛抱捕暴泡浦疱砲胞脯苞葡蒲袍褒逋鋪飽鮑幅暴曝瀑爆輻俵剽彪慓杓標漂瓢票表豹飇飄驃"),
    (0x7921, "品稟楓諷豊風馮彼披疲皮被避陂匹弼必泌珌畢疋筆苾馝乏逼下何厦夏廈昰河瑕荷蝦賀遐霞鰕壑學虐謔鶴寒恨"),
    (0x7950, "悍旱汗漢澣瀚罕翰閑閒限韓割轄函含咸啣喊檻涵緘艦銜陷鹹合哈盒蛤閤闔陜亢伉姮嫦巷恒抗杭桁沆港缸肛航"),
    (0x7a21, "行降項亥偕咳垓奚孩害懈楷海瀣蟹解該諧邂駭骸劾核倖幸杏荇行享向嚮珦鄕響餉饗香噓墟虛許憲櫶獻軒歇險"),
    (0x7a50, "驗奕爀赫革俔峴弦懸晛泫炫玄玹現眩睍絃絢縣舷衒見賢鉉顯孑穴血頁嫌俠協夾峽挾浹狹脅脇莢鋏頰亨兄刑型"),
    (0x7b21, "形泂滎瀅灐炯熒珩瑩荊螢衡逈邢鎣馨兮彗惠慧暳蕙蹊醯鞋乎互呼壕壺好岵弧戶扈昊晧毫浩淏湖滸澔濠濩灝狐"),
    (0x7b50, "琥瑚瓠皓祜糊縞胡芦葫蒿虎號蝴護豪鎬頀顥惑或酷婚昏混渾琿魂忽惚笏哄弘汞泓洪烘紅虹訌鴻化和嬅樺火畵"),
    (0x7c21, "禍禾花華話譁貨靴廓擴攫確碻穫丸喚奐宦幻患換歡晥桓渙煥環紈還驩鰥活滑猾豁闊凰幌徨恍惶愰慌晃晄榥況"),
    (0x7c50, "湟滉潢煌璜皇篁簧荒蝗遑隍黃匯回廻徊恢悔懷晦會檜淮澮灰獪繪膾茴蛔誨賄劃獲宖橫鐄哮嚆孝效斅曉梟涍淆"),
    (0x7d21, "爻肴酵驍侯候厚后吼喉嗅帿後朽煦珝逅勛勳塤壎焄熏燻薰訓暈薨喧暄煊萱卉喙毁彙徽揮暉煇諱輝麾休携烋畦"),
    (0x7d50, "虧恤譎鷸兇凶匈洶胸黑昕欣炘痕吃屹紇訖欠欽歆吸恰洽翕興僖凞喜噫囍姬嬉希憙憘戱晞曦熙熹熺犧禧稀羲詰")]

/-- What pairs of octets add. -/
def ksPairs : Table where
  spans := [
    (0x8169, 0x8172, 0xac41), (0x8186, 0x8198, 0xac5d), (0x81d0, 0x81d7, 0xaccd),
    (0x81d9, 0x81e0, 0xacd8), (0x824b, 0x8252, 0xad21), (0x8281, 0x8288, 0xad59),
    (0x828a, 0x8291, 0xad64), (0x82a6, 0x82b0, 0xad91), (0x82b7, 0x82c8, 0xada5),
    (0x82c9, 0x82d0, 0xadb8), (0x82de, 0x82e5, 0xadd4), (0x82ec, 0x82fe, 0xade5),
    (0x8353, 0x835a, 0xae15), (0x8361, 0x8373, 0xae1d), (0x83b3, 0x83e1, 0xae8d),
    (0x83f6, 0x83fe, 0xaedd), (0x8452, 0x845a, 0xaefd), (0x8468, 0x847a, 0xaf11),
    (0x8481, 0x8488, 0xaf24), (0x84a0, 0x84aa, 0xaf51), (0x84b1, 0x84c3, 0xaf66),
    (0x84e0, 0x84fa, 0xaf9d), (0x8595, 0x859e, 0xb01e), (0x859f, 0x85b9, 0xb029),
    (0x85c8, 0x85e5, 0xb05e), (0x8670, 0x867a, 0xb0e6), (0x8681, 0x8697, 0xb0f1),
    (0x86d0, 0x86e6, 0xb161), (0x8741, 0x874a, 0xb19e), (0x874b, 0x875a, 0xb1a9),
    (0x8761, 0x8773, 0xb1b9), (0x8788, 0x878f, 0xb1e0), (0x8795, 0x879c, 0xb1f1),
    (0x87b8, 0x87ca, 0xb221), (0x87d2, 0x87ec, 0xb23d), (0x8881, 0x8890, 0xb2b8),
    (0x88c0, 0x88f6, 0xb31d), (0x8966, 0x8970, 0xb395), (0x8981, 0x8996, 0xb3ae),
    (0x89ac, 0x89be, 0xb3e9), (0x89bf, 0x89d1, 0xb3fd), (0x89e7, 0x89ee, 0xb42c),
    (0x89ef, 0x89fe, 0xb435), (0x8a41, 0x8a4b, 0xb445), (0x8a66, 0x8a78, 0xb46d),
    (0x8a86, 0x8a99, 0xb489), (0x8aa6, 0x8aad, 0xb4ad), (0x8adf, 0x8af9, 0xb4f9),
    (0x8b72, 0x8b7a, 0xb562), (0x8b81, 0x8bb5, 0xb56b), (0x8bd9, 0x8beb, 0xb5d9),
    (0x8bec, 0x8bfe, 0xb5ed), (0x8c41, 0x8c50, 0xb600), (0x8c81, 0x8c8d, 0xb63b),
    (0x8c8e, 0x8ca8, 0xb649), (0x8cac, 0x8cde, 0xb669), (0x8cee, 0x8cfe, 0xb6b2),
    (0x8d41, 0x8d51, 0xb6c3), (0x8d52, 0x8d5a, 0xb6d5), (0x8d61, 0x8d72, 0xb6de),
    (0x8d89, 0x8daa, 0xb706), (0x8db7, 0x8dbe, 0xb73c), (0x8dcc, 0x8dd5, 0xb756),
    (0x8e52, 0x8e5a, 0xb7b9), (0x8e67, 0x8e7a, 0xb7ca), (0x8e81, 0x8e8e, 0xb7de),
    (0x8ecb, 0x8ed6, 0xb845), (0x8ed8, 0x8edf, 0xb854), (0x8ef7, 0x8efe, 0xb87d),
    (0x8f41, 0x8f48, 0xb885), (0x8f49, 0x8f5a, 0xb88e), (0x8f61, 0x8f68, 0xb8a0),
    (0x8f91, 0x8f98, 0xb8d5), (0x8fb5, 0x8fc7, 0xb905), (0x8fcf, 0x8fe9, 0xb921),
    (0x906b, 0x907a, 0xb98f), (0x9081, 0x908d, 0xb99f), (0x90c7, 0x90d2, 0xba09),
    (0x90d3, 0x90f4, 0xba16), (0x9166, 0x916f, 0xba79), (0x9181, 0x9195, 0xba93),
    (0x91ab, 0x91b9, 0xbac9), (0x91ba, 0x91db, 0xbada), (0x91e2, 0x91e9, 0xbb05),
    (0x9243, 0x924a, 0xbb2c), (0x9265, 0x926c, 0xbb59), (0x926e, 0x9275, 0xbb64),
    (0x9281, 0x9296, 0xbb72), (0x929d, 0x92af, 0xbb91), (0x92bf, 0x92c6, 0xbbb8),
    (0x92d6, 0x92f9, 0xbbd4), (0x9372, 0x937a, 0xbc51), (0x9384, 0x93a9, 0xbc5e),
    (0x93d2, 0x93d9, 0xbcc5), (0x93e3, 0x93f9, 0xbcdd), (0x9452, 0x945a, 0xbd15),
    (0x946e, 0x947a, 0xbd2d), (0x949a, 0x94a3, 0xbd5a), (0x94a7, 0x94bd, 0xbd69),
    (0x94d4, 0x94de, 0xbda5), (0x94e6, 0x94fe, 0xbdb9), (0x9548, 0x9553, 0xbddd),
    (0x9589, 0x95ac, 0xbe20), (0x95e2, 0x95ef, 0xbe9a), (0x95f0, 0x95fe, 0xbea9),
    (0x9641, 0x9658, 0xbeb8), (0x9672, 0x967a, 0xbeed), (0x9681, 0x968b, 0xbef6),
    (0x9692, 0x969f, 0xbf0a), (0x96a1, 0x96c2, 0xbf1e), (0x96d2, 0x96fe, 0xbf56),
    (0x9741, 0x9751, 0xbf83), (0x9752, 0x975a, 0xbf95), (0x9761, 0x9772, 0xbf9e),
    (0x9773, 0x977a, 0xbfb1), (0x9781, 0x978c, 0xbfb9), (0x97a2, 0x97fb, 0xbfe2),
    (0x9841, 0x9851, 0xc040), (0x986b, 0x987a, 0xc06a), (0x9881, 0x9896, 0xc07a),
    (0x9981, 0x9989, 0xc17c), (0x99a6, 0x99b1, 0xc1b1), (0x99dc, 0x99e3, 0xc1f4),
    (0x9a4a, 0x9a5a, 0xc235), (0x9abd, 0x9ade, 0xc2ba), (0x9b52, 0x9b5a, 0xc32a),
    (0x9b61, 0x9b72, 0xc333), (0x9b73, 0x9b7a, 0xc346), (0x9b81, 0x9b9a, 0xc34e),
    (0x9bb4, 0x9be6, 0xc38d), (0x9be7, 0x9bfd, 0xc3c1), (0x9c61, 0x9c69, 0xc3ff),
    (0x9c71, 0x9c7a, 0xc411), (0x9c81, 0x9c89, 0xc41b), (0x9c9e, 0x9ca7, 0xc43e),
    (0x9ca8, 0x9cc2, 0xc449), (0x9cd8, 0x9cea, 0xc481), (0x9cf2, 0x9cfe, 0xc49d),
    (0x9d41, 0x9d4e, 0xc4aa), (0x9d52, 0x9d5a, 0xc4bd), (0x9d61, 0x9d7a, 0xc4c6),
    (0x9d81, 0x9d89, 0xc4e0), (0x9d9a, 0x9da3, 0xc502), (0x9db1, 0x9dbb, 0xc51d),
    (0x9e48, 0x9e4f, 0xc5a1), (0x9e50, 0x9e59, 0xc5aa), (0x9eca, 0x9ed4, 0xc661),
    (0x9fd2, 0x9fd9, 0xc76c), (0xa06d, 0xa07a, 0xc7ed), (0xa0c1, 0xa0db, 0xc855),
    (0xa0f2, 0xa0f9, 0xc895), (0xa144, 0xa156, 0xc8a9), (0xa181, 0xa18f, 0xc8e6),
    (0xa248, 0xa25a, 0xc919), (0xa268, 0xa27a, 0xc935), (0xa281, 0xa288, 0xc948),
    (0xa296, 0xa29d, 0xc964), (0xa34b, 0xa355, 0xc97d), (0xa36a, 0xa37a, 0xc99e),
    (0xa381, 0xa391, 0xc9af), (0xa46e, 0xa47a, 0xca19), (0xa484, 0xa4a0, 0xca2a),
    (0xa561, 0xa572, 0xca6b), (0xa581, 0xa591, 0xca87), (0xa592, 0xa5a0, 0xca99),
    (0xa641, 0xa654, 0xcaa8), (0xa68c, 0xa69e, 0xcaf5), (0xa753, 0xa75a, 0xcb22),
    (0xa761, 0xa777, 0xcb2a), (0xa799, 0xa7a0, 0xcb65), (0xa841, 0xa84b, 0xcb6d),
    (0xa84c, 0xa85a, 0xcb7a), (0xa861, 0xa873, 0xcb89), (0xa881, 0xa894, 0xcba4),
    (0xa895, 0xa8a0, 0xcbb9), (0xa941, 0xa94f, 0xcbc5), (0xa950, 0xa95a, 0xcbd5),
    (0xa968, 0xa97a, 0xcbea), (0xa981, 0xa98f, 0xcbfd), (0xaa83, 0xaaa0, 0xcc76),
    (0xab81, 0xab89, 0xccdb), (0xab94, 0xaba0, 0xccf1), (0xac6a, 0xac75, 0xcd2d),
    (0xac81, 0xac9d, 0xcd3f), (0xad53, 0xad5a, 0xcd79), (0xad68, 0xad72, 0xcd89),
    (0xad8d, 0xad9f, 0xcdb1), (0xae4a, 0xae5a, 0xcdd1), (0xaf47, 0xaf5a, 0xce36),
    (0xaf61, 0xaf6e, 0xce4a), (0xb04e, 0xb05a, 0xceae), (0xb067, 0xb07a, 0xcec2),
    (0xb081, 0xb08e, 0xced6), (0xb16f, 0xb17a, 0xcf39), (0xb181, 0xb18f, 0xcf45),
    (0xb261, 0xb273, 0xcf8e), (0xb287, 0xb299, 0xcfb1), (0xb341, 0xb354, 0xcfcc),
    (0xb38d, 0xb3a0, 0xd019), (0xb46e, 0xb478, 0xd061), (0xb48e, 0xb4a0, 0xd082),
    (0xb541, 0xb54f, 0xd095), (0xb595, 0xb5a0, 0xd0f9), (0xb641, 0xb648, 0xd105),
    (0xb649, 0xb65a, 0xd10e), (0xb661, 0xb670, 0xd120), (0xb741, 0xb74e, 0xd16e),
    (0xb761, 0xb775, 0xd18b), (0xb792, 0xb7a0, 0xd1c1), (0xb841, 0xb848, 0xd1d0),
    (0xb849, 0xb85a, 0xd1d9), (0xb861, 0xb869, 0xd1eb), (0xb86d, 0xb87a, 0xd1f9),
    (0xb888, 0xb8a0, 0xd211), (0xb961, 0xb96f, 0xd24d), (0xb981, 0xb997, 0xd269),
    (0xba90, 0xba99, 0xd2e6), (0xbb81, 0xbba0, 0xd34a), (0xbc41, 0xbc52, 0xd36a),
    (0xbd42, 0xbd49, 0xd3d9), (0xbd4b, 0xbd52, 0xd3e4), (0xbd6d, 0xbd7a, 0xd409),
    (0xbd87, 0xbda0, 0xd41e), (0xbe41, 0xbe48, 0xd438), (0xbe4c, 0xbe5a, 0xd445),
    (0xbe61, 0xbe68, 0xd454), (0xbe6f, 0xbe76, 0xd465), (0xbe98, 0xbea0, 0xd495),
    (0xbf41, 0xbf4b, 0xd49e), (0xbf4c, 0xbf5a, 0xd4aa), (0xbf61, 0xbf73, 0xd4b9),
    (0xbf89, 0xbf90, 0xd4e0), (0xc061, 0xc07a, 0xd51e), (0xc165, 0xc178, 0xd591),
    (0xc181, 0xc1a0, 0xd5a8), (0xc28d, 0xc294, 0xd625), (0xc295, 0xc29e, 0xd62e),
    (0xc36f, 0xc37a, 0xd675), (0xc38f, 0xc396, 0xd695), (0xc445, 0xc44c, 0xd6b1),
    (0xc44e, 0xc455, 0xd6bc), (0xc492, 0xc49d, 0xd705)]
  runs := [
    (0x8141, "갂갃갅갆갋갌갍갎갏갘갞갟갡갢갣갥갦갧갨갩갪갫갮갲갳갴"),
    (0x8161, "갵갶갷갺갻갽갾갿"), (0x8173, "걌걎걏걐걑걒걓걕"), (0x8181, "걖걗걙걚걛"),
    (0x8199, "걲걳걵걶걹걻걼걽걾걿겂겇겈겍겎겏겑겒겓겕겖겗겘겙겚겛겞겢겣겤겥겦겧겫겭겮겱겲겳겴겵겶겷겺겾"),
    (0x81c6, "겿곀곂곃곅곆곇곉곊곋"), (0x81d8, "곖"), (0x81e1, "곢곣곥곦곩곫곭곮곲곴곷곸곹곺곻곾곿괁괂괃괅괇괈괉괊괋괎괐괒괓"),
    (0x8241, "괔괕괖괗괙괚괛괝괞괟"), (0x8253, "괪괫괮괯괰괱괲괳"), (0x8261, "괶괷괹괺괻괽괾괿굀굁굂굃굆굈굊굋굌굍굎굏굑굒굓굕굖굗"),
    (0x8289, "굢"), (0x8292, "굮굯굱굲굷굸굹굺굾궀궃궄궅궆궇궊궋궍궎궏"), (0x82b1, "궞궟궠궡궢궣"), (0x82d1, "귂귃귅귆귇귉귊귋귌귍귎귏귒"),
    (0x82e6, "귝귞귟귡귢귣"), (0x8341, "귺귻귽귾긂긃긄긅긆긇긊긌긎긏긐긑긒긓"), (0x8374, "긲긳긵긶긹긻긼"),
    (0x8381, "긽긾긿깂깄깇깈깉깋깏깑깒깓깕깗깘깙깚깛깞깢깣깤깦깧깪깫깭깮깯깱깲깳깴깵깶깷깺깾깿꺀꺁꺂꺃꺆"),
    (0x83ae, "꺇꺈꺉꺊꺋"), (0x83e2, "꺿껁껂껃껅껆껇껈껉껊껋껎껒껓껔껕껖껗껚껛"), (0x8441, "껦껧껩껪껬껮껯껰껱껲껳껵껶껷껹껺껻"),
    (0x8461, "꼆꼉꼊꼋꼌꼎꼏"), (0x8489, "꼮꼯꼱꼳꼵꼶꼷꼸꼹꼺꼻꼾꽀꽄꽅꽆꽇꽊꽋꽌꽍꽎꽏"),
    (0x84ab, "꽞꽟꽠꽡꽢꽣"), (0x84c4, "꽺꽻꽼꽽꽾꽿꾁꾂꾃꾅꾆꾇꾉꾊꾋꾌꾍꾎꾏꾒꾓꾔꾖꾗꾘꾙꾚꾛"),
    (0x84fb, "꾺꾻꾽꾾"), (0x8541, "꾿꿁꿂꿃꿄꿅꿆꿊꿌꿏꿐꿑꿒꿓꿕꿖꿗꿘꿙꿚꿛꿝꿞꿟꿠꿡"),
    (0x8561, "꿢꿣꿤꿥꿦꿧꿪꿫꿬꿭꿮꿯꿲꿳꿵꿶꿷꿹꿺꿻꿼꿽꿾꿿뀂뀃"),
    (0x8581, "뀅뀆뀇뀈뀉뀊뀋뀍뀎뀏뀑뀒뀓뀕뀖뀗뀘뀙뀚뀛"), (0x85ba, "끆끇끉끋끍끏끐끑끒끖끘끚끛끜"),
    (0x85e6, "끾끿낁낂낃낅낆낇낈낉낊낋낎낐낒낓낔낕낖낗낛낝낞낣낤"),
    (0x8641, "낥낦낧낪낰낲낶낷낹낺낻낽낾낿냀냁냂냃냆냊냋냌냍냎냏냒"),
    (0x8661, "냓냕냖냗냙냚냛냜냝냞냟냡냢냣냤"), (0x8698, "넊넍넎넏넑넔넕넖넗넚넞넟넠넡넢넦넧넩넪넫넭넮넯넰넱넲넳넶넺넻넼넽넾넿녂녃녅녆녇녉녊녋녌녍녎"),
    (0x86c5, "녏녒녓녖녗녙녚녛녝녞녟"), (0x86e7, "녺녻녽녾녿놁놃놄놅놆놇놊놌놎놏놐놑놕놖놗놙놚놛놝"),
    (0x8774, "뇍뇎뇏뇑뇒뇓뇕"), (0x8781, "뇖뇗뇘뇙뇚뇛뇞"), (0x8790, "뇪뇫뇭뇮뇯"),
    (0x879d, "뇺뇼뇾뇿눀눁눂눃눆눇눉눊눍눎눏눐눑눒눓눖눘눚눛눜눝눞눟"),
    (0x87cb, "눵눶눷눸눹눺눻"), (0x87ed, "뉙뉚뉛뉝뉞뉟뉡뉢뉣뉤뉥뉦뉧뉪뉫뉬뉭뉮"), (0x8841, "뉯뉰뉱뉲뉳뉶뉷뉸뉹뉺뉻뉽뉾뉿늀늁늂늃늆늇늈늊늋늌늍늎"),
    (0x8861, "늏늒늓늕늖늗늛늜늝늞늟늢늤늧늨늩늫늭늮늯늱늲늳늵늶늷"),
    (0x8891, "닊닋닍닎닏닑닓닔닕닖닗닚닜닞닟닠닡닣닧닩닪닰닱닲닶닼닽닾댂댃댅댆댇댉댊댋댌댍댎댏댒댖댗댘댙"),
    (0x88be, "댚댛"), (0x88f7, "덗덙덚덝덠덡덢덣"), (0x8941, "덦덨덪덬덭덯덲덳덵덶덷덹덺덻덼덽덾덿뎂뎆뎇뎈뎉뎊뎋뎍"),
    (0x8961, "뎎뎏뎑뎒뎓"), (0x8971, "뎢뎣뎤뎥뎦뎧뎩뎪뎫뎭"), (0x8997, "돆돇돉돊돍돏돑돒돓돖돘돚돜돞돟돡돢돣돥돦돧"),
    (0x89d2, "됑됒됓됔됕됖됗됙됚됛됝됞됟됡됢됣됤됥됦됧됪"),
    (0x8a4c, "둒둓둕둖둗둙둚둛둜둝둞둟둢둤둦"), (0x8a61, "둧둨둩둪둫"), (0x8a79, "뒁뒂"), (0x8a81, "뒃뒄뒅뒆뒇"),
    (0x8a9a, "뒞뒟뒠뒡뒢뒣뒥뒦뒧뒩뒪뒫"), (0x8aae, "뒶뒸뒺뒻뒼뒽뒾뒿듁듂듃듅듆듇듉듊듋듌듍듎듏듑듒듓듔듖듗듘듙듚듛듞듟듡듢듥듧듨듩듪듫듮듰듲듳"),
    (0x8adb, "듴듵듶듷"), (0x8afa, "딖딗딙딚딝"), (0x8b41, "딞딟딠딡딢딣딦딫딬딭딮딯딲딳딵딶딷딹딺딻딼딽딾딿땂땆"),
    (0x8b61, "땇땈땉땊땎땏땑땒땓땕땖땗땘땙땚땛땞"), (0x8bb6, "떢떣떥떦떧떩떬떭떮떯떲떶떷떸떹떺떾떿뗁뗂뗃뗅뗆뗇뗈뗉뗊뗋뗎뗒뗓뗔뗕뗖뗗"),
    (0x8c51, "똒똓똕똖똗똙똚똛똜똝"), (0x8c61, "똞똟똠똡똢똣똤똦똧똨똩똪똫똭똮똯똰똱똲똳똵똶똷똸똹똺"),
    (0x8ca9, "뙥뙦뙧"), (0x8cdf, "뚞뚟뚡뚢뚣뚥뚦뚧뚨뚩뚪뚭뚮뚯뚰"), (0x8d73, "뛱뛲뛳뛵뛶뛷뛹뛺"), (0x8d81, "뛻뛼뛽뛾뛿뜂뜃뜄"),
    (0x8dab, "뜪뜫뜭뜮뜱뜲뜳뜴뜵뜶뜷뜺"), (0x8dbf, "띅띆띇띉띊띋띍띎띏띐띑띒띓"),
    (0x8dd6, "띡띢띣띥띦띧띩띪띫띬띭띮띯띲띴띶띷띸띹띺띻띾띿랁랂랃랅랆랇랈랉랊랋랎랓랔랕랚랛랝랞"),
    (0x8e41, "랟랡랢랣랤랥랦랧랪랮랯랰랱랲랳랶랷"), (0x8e61, "럂럃럄럅럆럈"),
    (0x8e8f, "럮럯럱럲럳럵럶럷럸럹럺럻럾렂렃렄렅렆렊렋렍렎렏렑렒렓렔렕렖렗렚렜렞렟렠렡렢렣렦렧렩렪렫렭렮"),
    (0x8ebc, "렯렰렱렲렳렶렺렻렼렽렾렿롁롂롃"), (0x8ed7, "롒"), (0x8ee0, "롞롟롡롢롣롥롦롧롨롩롪롫롮롰롲롳롴롵롶롷롹롺롻"),
    (0x8f69, "뢩뢪뢫뢬뢭뢮뢯뢱뢲뢳뢵뢶뢷뢹뢺뢻뢼뢽"), (0x8f81, "뢾뢿룂룄룆룇룈룉룊룋룍룎룏룑룒룓"),
    (0x8f99, "룞룠룢룣룤룥룦룧룪룫룭룮룯룱룲룳룴룵룶룷룺룼룾룿뤀뤁뤂뤃"),
    (0x8fc8, "뤙뤚뤛뤜뤝뤞뤟"), (0x8fea, "뤾뤿륁륂륃륅륆륇륈륉륊륋륍륎륐륒륓륔륕륖륗"),
    (0x9041, "륚륛륝륞륟륡륢륣륤륥륦륧륪륬륮륯륰륱륲륳륶륷륹륺륻륽"),
    (0x9061, "륾륿릀릁릂릃릆릈릋릌"), (0x908e, "릮릯릱릲릳릵릶릷릸릹릺릻릾맀맂맃맄맅맆맇맊맋맍맓맔맕맖맗맚맜맟맠맢맦맧맩맪맫맭맮맯맰맱맲맳"),
    (0x90bb, "맶맻맼맽맾맿먂먃먄먅먆먇"), (0x90f5, "먺먻먽먾먿멁멃멄멅멆"), (0x9141, "멇멊멌멏멐멑멒멖멗멙멚멛멝멞멟멠멡멢멣멦멪멫멬멭멮멯"),
    (0x9161, "멲멳멵멶멷"), (0x9170, "몆몈몉몊몋몍몎몏몐몑몒"), (0x9196, "몪몭몮몯몱몳몴몵몶몷몺몼몾몿뫀뫁뫂뫃뫅뫆뫇"),
    (0x91dc, "뫽뫾뫿묁묂묃"), (0x91ea, "묎묐묒묓묔묕묖묗묙묚묛묝묞묟묡묢묣묤묥묦묧"),
    (0x9241, "묨묪"), (0x924b, "묷묹묺묿뭀뭁뭂뭃뭆뭈뭊뭋뭌뭎뭑뭒"), (0x9261, "뭓뭕뭖뭗"), (0x926d, "뭢"),
    (0x9276, "뭭뭮뭯뭰뭱"), (0x9297, "뮉뮊뮋뮍뮎뮏"), (0x92b0, "뮥뮦뮧뮩뮪뮫뮭뮮뮯뮰뮱뮲뮳뮵뮶"), (0x92c7, "믁믂믃믅믆믇믉믊믋믌믍믎믏믑믒"),
    (0x92fa, "믺믻믽믾밁"), (0x9341, "밃밄밅밆밇밊밎밐밒밓밙밚밠밡밢밣밦밨밪밫밬밮밯밲밳밵"),
    (0x9361, "밶밷밹밺밻밼밽밾밿뱂뱆뱇뱈뱊뱋뱎뱏"), (0x9381, "뱚뱛뱜"),
    (0x93aa, "벆벇벉벊벍벏벐벑벒벓벖벘벛벜벝벞벟벢벣벥벦벩벪벫벬벭벮벯벲벶벷벸벹벺벻벾벿볁볂볃"),
    (0x93da, "볎볒볓볔볖볗볙볚볛"), (0x93fa, "볷볹볺볻볽"), (0x9441, "볾볿봀봁봂봃봆봈봊봋봌봍봎봏봑봒봓"),
    (0x9461, "봞봟봠봡봢봣봥봦봧봨봩봪봫"), (0x9481, "봺봻봼봽봾봿뵁뵂뵃뵄뵅뵆뵇뵊뵋뵍뵎뵏뵑뵒뵓뵔뵕뵖뵗"),
    (0x94a4, "뵥뵦뵧"), (0x94be, "붂붃붅붆붋붌붍붎붏붒붔붖붗붘붛붝붞붟붠붡붢붣"),
    (0x94df, "붱붲붳붴붵붶붷"), (0x9541, "뷒뷓뷖뷗뷙뷚뷛"), (0x9554, "뷪뷫뷬뷭뷮뷯뷱"),
    (0x9561, "뷲뷳뷵뷶뷷뷹뷺뷻뷼뷽뷾뷿븁븂븄븆븇븈븉븊븋븎븏븑븒븓"),
    (0x9581, "븕븖븗븘븙븚븛븞"), (0x95ad, "빆빇빉빊빋빍빏빐빑빒빓빖빘빜빝빞빟빢빣빥빦빧빩빫빬빭빮빯빲빶빷빸빹빺빾빿뺁뺂뺃뺅뺆뺇뺈뺉뺊"),
    (0x95da, "뺋뺎뺒뺓뺔뺕뺖뺗"), (0x9659, "뻒뻓"), (0x9661, "뻕뻖뻙뻚뻛뻜뻝뻞뻟뻡뻢뻦뻧뻨뻩뻪뻫"), (0x968c, "뼂뼃뼄뼅뼆뼇"),
    (0x96a0, "뼚"), (0x96c3, "뽂뽃뽅뽆뽇뽉뽊뽋뽌뽍뽎뽏뽒뽓뽔"), (0x978d, "뿆뿇뿈뿉뿊뿋뿎뿏뿑뿒뿓뿕뿖뿗뿘뿙뿚뿛뿝뿞뿠"),
    (0x97fc, "쀽쀾쀿"), (0x9852, "쁒쁓쁔쁕쁖쁗쁙쁚쁛"), (0x9861, "쁝쁞쁟쁡쁢쁣쁤쁥쁦쁧"),
    (0x9897, "삒삓삕삖삗삙삚삛삜삝삞삟삢삤삦삧삨삩삪삫삮삱삲삷삸삹삺삻삾샂샃샄샆샇샊샋샍샎샏샑샒샓샔샕샖"),
    (0x98c4, "샗샚샞샟샠샡샢샣샦샧샩샪샫샭샮샯샰샱샲샳샶샸샺샻샼샽샾샿섁섂섃섅섆섇섉섊섋섌섍섎섏섑섒섓섔"),
    (0x98f1, "섖섗섘섙섚섛섡섢섥섨섩섪섫섮"), (0x9941, "섲섳섴섵섷섺섻섽섾섿셁셂셃셄셅셆셇셊셎셏셐셑셒셓셖셗"),
    (0x9961, "셙셚셛셝셞셟셠셡셢셣셦셪셫셬셭셮셯셱셲셳셵셶셷셹셺셻"),
    (0x998a, "솆솇솈솉솊솋솏솑솒솓솕솗솘솙솚솛솞솠솢솣솤솦솧솪솫솭솮솯"),
    (0x99b2, "솾솿쇀쇁쇂쇃쇅쇆쇇쇉쇊쇋쇍쇎쇏쇐쇑쇒쇓쇕쇖쇙쇚쇛쇜쇝쇞쇟쇡쇢쇣쇥쇦쇧쇩쇪쇫쇬쇭쇮쇯쇲"),
    (0x99e4, "쇾쇿숁숂숃숅숆숇숈숉숊숋숎숐숒숓숔숕숖숗숚숛숝숞숡숢숣"),
    (0x9a41, "숤숥숦숧숪숬숮숰숳"), (0x9a61, "쉆쉇쉉쉊쉋쉌쉍쉎쉏쉒쉓쉕쉖쉗쉙쉚쉛쉜쉝쉞쉟쉡쉢쉣쉤쉦"),
    (0x9a81, "쉧쉨쉩쉪쉫쉮쉯쉱쉲쉳쉵쉶쉷쉸쉹쉺쉻쉾슀슂슃슄슅슆슇슊슋슌슍슎슏슑슒슓슔슕슖슗슙슚슜슞슟슠슡"),
    (0x9aae, "슢슣슦슧슩슪슫슮슯슰슱슲슳슶슸"), (0x9adf, "싞싟싡싢싥싦싧싨싩싪싮싰싲싳싴싵싷싺싽싾싿쌁쌂쌃쌄쌅쌆쌇쌊쌋쌎쌏"),
    (0x9b41, "쌐쌑쌒쌖쌗쌙쌚쌛쌝쌞쌟쌠쌡쌢쌣쌦쌧"), (0x9b9b, "썪썫썭썮썯썱썳썴썵썶썷썺썻썾썿쎀쎁쎂쎃쎅쎆쎇쎉쎊쎋"),
    (0x9bfe, "쏚"), (0x9c41, "쏛쏝쏞쏡쏣쏤쏥쏦쏧쏪쏫쏬쏮쏯쏰쏱쏲쏳쏶쏷쏹쏺쏻쏼쏽쏾"),
    (0x9c6a, "쐉쐊쐋쐌쐍쐎쐏"), (0x9c8a, "쐥쐦쐧쐨쐩쐪쐫쐭쐮쐯쐱쐲쐳쐵쐶쐷쐸쐹쐺쐻"), (0x9cc3, "쑦쑧쑩쑪쑫쑭쑮쑯쑰쑱쑲쑳쑶쑷쑸쑺쑻쑼쑽쑾쑿"),
    (0x9ceb, "쒕쒖쒗쒘쒙쒚쒛"), (0x9d4f, "쒹쒺쒻"), (0x9d8a, "쓪쓫쓬쓭쓮쓯쓲쓳쓵쓶쓷쓹쓻쓼쓽쓾"), (0x9da4, "씍씎씏씑씒씓씕씖씗씘씙씚씛"),
    (0x9dbc, "씪씫씭씮씯씱씲씳씴씵씶씷씺씼씾씿앀앁앂앃앆앇앋앏앐앑앒앖앚앛앜앟앢앣앥앦앧앩앪앫앬앭앮앯앲"),
    (0x9de9, "앶앷앸앹앺앻앾앿얁얂얃얅얆얈얉얊얋얎얐얒얓얔"),
    (0x9e41, "얖얙얚얛얝얞얟"), (0x9e5a, "얶"), (0x9e61, "얷얺얿엀엁엂엃엋엍엏엒엓엕엖엗엙엚엛엜엝엞엟엢엤엦엧"),
    (0x9e81, "엨엩엪엫엯엱엲엳엵엸엹엺엻옂옃옄옉옊옋옍옎옏옑옒옓옔옕옖옗옚옝옞옟옠옡옢옣옦옧옩옪옫옯옱옲"),
    (0x9eae, "옶옸옺옼옽옾옿왂왃왅왆왇왉왊왋왌왍왎왏왒왖왗왘왙왚왛왞왟"),
    (0x9ed5, "왭왮왰왲왳왴왵왶왷왺왻왽왾왿욁욂욃욄욅욆욇욊욌욎욏욐욑욒욓욖욗욙욚욛욝욞욟욠욡욢욣욦"),
    (0x9f41, "욨욪욫욬욭욮욯욲욳욵욶욷욻욼욽욾욿웂웄웆웇웈웉웊웋웎"),
    (0x9f61, "웏웑웒웓웕웖웗웘웙웚웛웞웟웢웣웤웥웦웧웪웫웭웮웯웱웲"),
    (0x9f81, "웳웴웵웶웷웺웻웼웾웿윀윁윂윃윆윇윉윊윋윍윎윏윐윑윒윓윖윘윚윛윜윝윞윟윢윣윥윦윧윩윪윫윬윭윮"),
    (0x9fae, "윯윲윴윶윸윹윺윻윾윿읁읂읃읅읆읇읈읉읋읎읐읙읚읛읝읞읟읡읢읣읤읥읦읧읩읪"),
    (0x9fda, "읶읷읹읺읻읿잀잁잂잆잋잌잍잏잒잓잕잙잛잜잝잞잟잢잧잨잩잪잫잮잯잱잲잳잵잶잷"),
    (0xa041, "잸잹잺잻잾쟂쟃쟄쟅쟆쟇쟊쟋쟍쟏쟑쟒쟓쟔쟕쟖쟗쟙쟚쟛쟜"),
    (0xa061, "쟞쟟쟠쟡쟢쟣쟥쟦쟧쟩쟪쟫"), (0xa081, "쟻쟼쟽쟾쟿젂젃젅젆젇젉젋젌젍젎젏젒젔젗젘젙젚젛젞젟젡젢젣젥젦젧젨젩젪젫젮젰젲젳젴젵젶젷젹젺"),
    (0xa0ae, "젻젽젾젿졁졂졃졄졅졆졇졊졋졎졏졐졑졒졓"), (0xa0dc, "졲졳졵졶졷졹졻졼졽졾졿좂좄좈좉좊좎좏좐좑좒좓"),
    (0xa0fa, "좞좠좢좣좤"), (0xa141, "좥좦좧"), (0xa157, "좾좿죀죁"), (0xa161, "죂죃죅죆죇죉죊죋죍죎죏죐죑죒죓죖죘죚죛죜죝죞죟죢죣죥"),
    (0xa190, "죶죷죸죹죺죻죾죿줁줂줃줇줈줉줊줋줎"), (0xa241, "줐줒줓줔줕줖줗"), (0xa261, "줭줮줯줰줱줲줳"),
    (0xa289, "쥒쥓쥕쥖쥗쥙쥚쥛쥜쥝쥞쥟쥢"), (0xa29e, "쥭쥮쥯"), (0xa341, "쥱쥲쥳쥵쥶쥷쥸쥹쥺쥻"), (0xa356, "즊즋즍즎즏"),
    (0xa361, "즑즒즓즔즕즖즗즚즜"), (0xa392, "짂짃짅짆짉짋짌짍짎짏짒짔짗짘짛"), (0xa441, "짞짟짡짣짥짦짨짩짪짫짮짲짳짴짵짶짷짺짻짽짾짿쨁쨂쨃쨄"),
    (0xa461, "쨅쨆쨇쨊쨎쨏쨐쨑쨒쨓쨕쨖쨗"), (0xa481, "쨦쨧쨨"), (0xa541, "쩇쩈쩉쩊쩋쩎쩏쩑쩒쩓쩕쩖쩗쩘쩙쩚쩛쩞쩢쩣쩤쩥쩦쩧쩩쩪"),
    (0xa573, "쩾쩿쪀쪁쪂쪃쪅쪆"), (0xa655, "쪾쪿쫁쫂쫃쫅"), (0xa661, "쫆쫇쫈쫉쫊쫋쫎쫐쫒쫔쫕쫖쫗쫚쫛쫜쫝쫞쫟쫡쫢쫣쫤쫥쫦쫧"),
    (0xa681, "쫨쫩쫪쫫쫭쫮쫯쫰쫱쫲쫳"), (0xa69f, "쬉쬊"), (0xa741, "쬋쬌쬍쬎쬏쬑쬒쬓쬕쬖쬗쬙쬚쬛쬜쬝쬞쬟"), (0xa778, "쭂쭃쭄"),
    (0xa781, "쭅쭆쭇쭊쭋쭍쭎쭏쭑쭒쭓쭔쭕쭖쭗쭚쭛쭜쭞쭟쭠쭡쭢쭣"),
    (0xa874, "쮝쮞쮟쮠쮡쮢쮣"), (0xa961, "쯠쯡쯢쯣쯥쯦쯨"), (0xa990, "찎찏찑찒찓찕찖찗찘찙찚찛찞찟찠찣찤"),
    (0xaa41, "찥찦찪찫찭찯찱찲찳찴찵찶찷찺찿챀챁챂챃챆챇챉챊챋챍챎"),
    (0xaa61, "챏챐챑챒챓챖챚챛챜챝챞챟챡챢챣챥챧챩챪챫챬챭챮챯챱챲"),
    (0xaa81, "챳챴"), (0xab41, "첔첕첖첗첚첛첝첞첟첡첢첣첤첥첦첧첪첮첯첰첱첲첳첶첷첹"),
    (0xab61, "첺첻첽첾첿쳀쳁쳂쳃쳆쳈쳊쳋쳌쳍쳎쳏쳑쳒쳓쳕쳖쳗쳘쳙쳚"),
    (0xab8a, "쳥쳦쳧쳨쳩쳪쳫쳭쳮쳯"), (0xac41, "쳾쳿촀촂촃촄촅촆촇촊촋촍촎촏촑촒촓촔촕촖촗촚촜촞촟촠"),
    (0xac61, "촡촢촣촥촦촧촩촪촫"), (0xac76, "촺촻촼촽촾"), (0xac9e, "쵝쵞쵟"), (0xad41, "쵡쵢쵣쵥쵦쵧쵨쵩쵪쵫쵮쵰쵲쵳쵴쵵쵶쵷"),
    (0xad61, "춁춂춃춄춅춆춇"), (0xad73, "춖춗춙춚춛춝춞춟"), (0xad81, "춠춡춢춣춦춨춪춫춬춭춮춯"), (0xada0, "췅"),
    (0xae41, "췆췇췈췉췊췋췍췎췏"), (0xae61, "췢췣췤췥췦췧췩췪췫췭췮췯췱췲췳췴췵췶췷췺췼췾췿츀츁츂"),
    (0xae81, "츃츅츆츇츉츊츋츍츎츏츐츑츒츓츕츖츗츘츚츛츜츝츞츟츢츣츥츦츧츩츪츫"),
    (0xaf41, "츬츭츮츯츲츴"), (0xaf6f, "칚칛칝칞칢칣칤칥칦칧칪칬"), (0xaf81, "칮칯칰칱칲칳칶칷칹칺칻칽칾칿캀캁캂캃캆캈캊캋캌캍캎캏캒캓캕캖캗캙"),
    (0xb041, "캚캛캜캝캞캟캢캦캧캨캩캪캫"), (0xb061, "캻캼캽캾캿컀"), (0xb08f, "컦컧컩컪컭컮컯컰컱컲컳컶컺컻컼컽컾컿"),
    (0xb141, "켂켃켅켆켇켉켊켋켌켍켎켏켒켔켖켗켘켙켚켛켝켞켟켡켢켣"),
    (0xb161, "켥켦켧켨켩켪켫켮켲켳켴켵켶켷"), (0xb190, "콖콗콙콚콛콝콞콟콠콡콢콣콦콨콪콫콬"),
    (0xb241, "콭콮콯콲콳콵콶콷콹콺콻콼콽콾콿쾁쾂쾃쾄쾆쾇쾈쾉쾊쾋쾍"),
    (0xb274, "쾢쾣쾤쾥쾦쾧쾩"), (0xb281, "쾪쾫쾬쾭쾮쾯"), (0xb29a, "쿅쿆쿇쿈쿉쿊쿋"), (0xb355, "쿢쿣쿥쿦쿧쿩"),
    (0xb361, "쿪쿫쿬쿭쿮쿯쿲쿴쿶쿷쿸쿹쿺쿻쿽쿾쿿퀁퀂퀃퀅퀆퀇퀈퀉퀊"),
    (0xb381, "퀋퀌퀍퀎퀏퀐퀒퀓퀔퀕퀖퀗"), (0xb441, "퀮퀯퀰퀱퀲퀳퀶퀷퀹퀺퀻퀽퀾퀿큀큁큂큃큆큈큊큋큌큍큎큏"),
    (0xb461, "큑큒큓큕큖큗큙큚큛큜큝큞큟"), (0xb479, "큮큯"), (0xb481, "큱큲큳큵큶큷큸큹큺큻큾큿킀"), (0xb550, "킦킧킩킪킫킭킮킯킰킱킲"),
    (0xb561, "킳킶킸킺킻킼킽킾킿탂탃탅탆탇탊탋탌탍탎탏탒탖탗탘탙탚"),
    (0xb581, "탛탞탟탡탢탣탥탦탧탨탩탪탫탮탲탳탴탵탶탷"), (0xb671, "턲턳턵턶턷턹턻턼턽턾"),
    (0xb681, "턿텂텆텇텈텉텊텋텎텏텑텒텓텕텖텗텘텙텚텛텞텠텢텣텤텥텦텧텩텪텫텭"),
    (0xb74f, "텽텾텿톀톁톂톃톅톆톇톉톊"), (0xb776, "톢톣톥톦톧"), (0xb781, "톩톪톫톬톭톮톯톲톴톶톷톸톹톻톽톾톿"), (0xb86a, "퇵퇶퇷"),
    (0xb881, "툈툊툋툌툍툎툏"), (0xb941, "툪툫툮툯툱툲툳툵툶툷툸툹툺툻툾퉀퉂퉃퉄퉅퉆퉇퉉퉊퉋퉌"),
    (0xb970, "퉝퉞퉟퉠퉡퉢퉣퉥퉦퉧퉨"), (0xb998, "튂튃튅튆튇튉튊튋튌"), (0xba41, "튍튎튏튒튓튔튖튗튘튙튚튛튝튞튟튡튢튣튥튦튧튨튩튪튫튭"),
    (0xba61, "튮튯튰튲튳튴튵튶튷튺튻튽튾틁틃틄틅틆틇틊틌틍틎틏틐틑"),
    (0xba81, "틒틓틕틖틗틙틚틛틝틞틟틠틡틢틣"), (0xba9a, "틲틳틵틶틷틹틺"), (0xbb41, "틻틼틽틾틿팂팄팆팇팈팉팊팋팏팑팒팓팕팗팘팙팚팛팞팢팣"),
    (0xbb61, "팤팦팧팪팫팭팮팯팱팲팳팴팵팶팷팺팾팿퍀퍁퍂퍃퍆퍇퍈퍉"),
    (0xbc53, "퍾퍿펁펂펃펅펆펇"), (0xbc61, "펈펉펊펋펎펒펓펔펕펖펗펚펛펝펞펟펡펢펣펤펥펦펧펪펬펮"),
    (0xbc81, "펯펰펱펲펳펵펶펷펹펺펻펽펾펿폀폁폂폃폆폇폊폋폌폍폎폏폑폒폓폔폕폖"),
    (0xbd41, "폗"), (0xbd4a, "폢"), (0xbd53, "폮폯폱폲폳폵폶폷"), (0xbd61, "폸폹폺폻폾퐀퐂퐃퐄퐅퐆퐇"),
    (0xbd81, "퐗퐘퐙퐚퐛퐜"), (0xbe49, "푁푂푃"), (0xbe69, "푝푞푟푡푢푣"), (0xbe77, "푮푰푱푲"),
    (0xbe81, "푳푴푵푶푷푺푻푽푾풁풃풄풅풆풇풊풌풎풏풐풑풒풓"),
    (0xbf74, "퓍퓎퓏퓑퓒퓓퓕"), (0xbf81, "퓖퓗퓘퓙퓚퓛퓝퓞"), (0xbf91, "퓩퓪퓫퓭퓮퓯퓱퓲퓳퓴퓵퓶퓷퓹퓺퓼"),
    (0xc041, "퓾퓿픀픁픂픃픅픆픇픉픊픋픍픎픏픐픑픒픓픖픘픙픚픛픜픝"),
    (0xc081, "픸픹픺픻픾픿핁핂핃핅핆핇핈핉핊핋핎핐핒핓핔핕핖핗핚핛핝핞핟핡핢핣"),
    (0xc141, "핤핦핧핪핬핮핯핰핱핲핳핶핷핹핺핻핽핾핿햀햁햂햃햆햊햋"),
    (0xc161, "햌햍햎햏"), (0xc179, "햦햧"), (0xc241, "헊헋헍헎헏헑헓헔헕헖헗헚헜헞헟헠헡헢헣헦헧헩헪헫헭헮"),
    (0xc261, "헯헰헱헲헳헶헸헺헻헼헽헾헿혂혃혅혆혇혉혊혋혌혍혎혏혒"),
    (0xc281, "혖혗혘혙혚혛혝혞혟혡혢혣"), (0xc29f, "혺혻"), (0xc341, "혽혾혿홁홂홃홄홆홇홊홌홎홏홐홒홓홖홗홙홚홛홝홞홟홠홡"),
    (0xc361, "홢홣홤홥홦홨홪홫홬홭홮홯홲홳"), (0xc381, "횁횂횄횆횇횈횉횊횋횎횏횑횒횓"), (0xc397, "횞횠횢횣횤횥횦횧횩횪"),
    (0xc441, "횫횭횮횯"), (0xc44d, "횺"), (0xc456, "훆훇훉훊훋"), (0xc461, "훍훎훏훐훒훓훕훖훘훚훛훜훝훞훟훡훢훣훥훦훧훩훪훫훬훭"),
    (0xc481, "훮훯훱훲훳훴훶훷훸훹훺훻훾훿휁휂휃"), (0xc49e, "휒휓휔"), (0xc541, "휕휖휗휚휛휝휞휟휡휢휣휤휥휦휧휪휬휮휯휰휱휲휳휶휷휹"),
    (0xc561, "휺휻휽휾휿흀흁흂흃흅흆흈흊흋흌흍흎흏흒흓흕흚흛흜흝흞"),
    (0xc581, "흟흢흤흦흧흨흪흫흭흮흯흱흲흳흵흶흷흸흹흺흻흾흿힀힂힃힄힅힆힇힊힋"),
    (0xc641, "힍힎힏힑힒힓힔힕힖힗힚힜힞힟힠힡힢힣")]

end SearchAnnotation.Encoding.Table
