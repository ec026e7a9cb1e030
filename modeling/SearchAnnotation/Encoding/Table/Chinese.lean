import SearchAnnotation.Encoding.Table

/-!
# Chinese characters of the mainland

The basic set has ninety-four rows of ninety-four cells, numbered by two seven-bit octets. Two
extensions add characters by pairs of octets and by fours.
-/

namespace SearchAnnotation.Encoding.Table

/-- The basic set. -/
def gbBasic : Table where
  spans := [
    (0x2134, 0x213b, 0x3008), (0x2231, 0x2244, 0x2488), (0x2245, 0x2258, 0x2474),
    (0x2259, 0x2262, 0x2460), (0x2265, 0x226e, 0x3220), (0x2271, 0x227c, 0x2160),
    (0x2325, 0x237d, 0xff05), (0x2421, 0x2473, 0x3041), (0x2521, 0x2576, 0x30a1),
    (0x2621, 0x2631, 0x391), (0x2641, 0x2651, 0x3b1), (0x2728, 0x2741, 0x416),
    (0x2758, 0x2771, 0x436), (0x2845, 0x2869, 0x3105), (0x2924, 0x296f, 0x2500),
    (0x6f64, 0x6f6c, 0x9564), (0x766d, 0x7674, 0x9cb0)]
  runs := [
    (0x2121, "\u3000、。・ˉˇ¨〃々―～‖…‘’“”〔〕"),
    (0x213c, "〖〗【】±×÷∶∧∨∑∏∪∩∈∷√⊥∥∠⌒⊙∫∮≡≌≈∽∝≠≮≯≤≥∞∵∴♂♀°′″℃＄¤￠￡"),
    (0x216b, "‰§№☆★○●◎◇◆□■△▲※→←↑↓〓"), (0x2321, "！＂＃￥"), (0x237e, "￣"), (0x2632, "ΣΤΥΦΧΨΩ"),
    (0x2652, "στυφχψω"), (0x2721, "АБВГДЕЁ"), (0x2751, "абвгдеё"),
    (0x2821, "āáǎàēéěèīíǐìōóǒòūúǔùǖǘǚǜüê"),
    (0x3021, "啊阿埃挨哎唉哀皑癌蔼矮艾碍爱隘鞍氨安俺按暗岸胺案肮昂盎凹敖熬翱袄傲奥懊澳芭捌扒叭吧笆八疤巴拔跋"),
    (0x3050, "靶把耙坝霸罢爸白柏百摆佰败拜稗斑班搬扳般颁板版扮拌伴瓣半办绊邦帮梆榜膀绑棒磅蚌镑傍谤苞胞包褒剥"),
    (0x3121, "薄雹保堡饱宝抱报暴豹鲍爆杯碑悲卑北辈背贝钡倍狈备惫焙被奔苯本笨崩绷甭泵蹦迸逼鼻比鄙笔彼碧蓖蔽毕"),
    (0x3150, "毙毖币庇痹闭敝弊必辟壁臂避陛鞭边编贬扁便变卞辨辩辫遍标彪膘表鳖憋别瘪彬斌濒滨宾摈兵冰柄丙秉饼炳"),
    (0x3221, "病并玻菠播拨钵波博勃搏铂箔伯帛舶脖膊渤泊驳捕卜哺补埠不布步簿部怖擦猜裁材才财睬踩采彩菜蔡餐参蚕"),
    (0x3250, "残惭惨灿苍舱仓沧藏操糙槽曹草厕策侧册测层蹭插叉茬茶查碴搽察岔差诧拆柴豺搀掺蝉馋谗缠铲产阐颤昌猖"),
    (0x3321, "场尝常长偿肠厂敞畅唱倡超抄钞朝嘲潮巢吵炒车扯撤掣彻澈郴臣辰尘晨忱沉陈趁衬撑称城橙成呈乘程惩澄诚"),
    (0x3350, "承逞骋秤吃痴持匙池迟弛驰耻齿侈尺赤翅斥炽充冲虫崇宠抽酬畴踌稠愁筹仇绸瞅丑臭初出橱厨躇锄雏滁除楚"),
    (0x3421, "础储矗搐触处揣川穿椽传船喘串疮窗幢床闯创吹炊捶锤垂春椿醇唇淳纯蠢戳绰疵茨磁雌辞慈瓷词此刺赐次聪"),
    (0x3450, "葱囱匆从丛凑粗醋簇促蹿篡窜摧崔催脆瘁粹淬翠村存寸磋撮搓措挫错搭达答瘩打大呆歹傣戴带殆代贷袋待逮"),
    (0x3521, "怠耽担丹单郸掸胆旦氮但惮淡诞弹蛋当挡党荡档刀捣蹈倒岛祷导到稻悼道盗德得的蹬灯登等瞪凳邓堤低滴迪"),
    (0x3550, "敌笛狄涤翟嫡抵底地蒂第帝弟递缔颠掂滇碘点典靛垫电佃甸店惦奠淀殿碉叼雕凋刁掉吊钓调跌爹碟蝶迭谍叠"),
    (0x3621, "丁盯叮钉顶鼎锭定订丢东冬董懂动栋侗恫冻洞兜抖斗陡豆逗痘都督毒犊独读堵睹赌杜镀肚度渡妒端短锻段断"),
    (0x3650, "缎堆兑队对墩吨蹲敦顿囤钝盾遁掇哆多夺垛躲朵跺舵剁惰堕蛾峨鹅俄额讹娥恶厄扼遏鄂饿恩而儿耳尔饵洱二"),
    (0x3721, "贰发罚筏伐乏阀法珐藩帆番翻樊矾钒繁凡烦反返范贩犯饭泛坊芳方肪房防妨仿访纺放菲非啡飞肥匪诽吠肺废"),
    (0x3750, "沸费芬酚吩氛分纷坟焚汾粉奋份忿愤粪丰封枫蜂峰锋风疯烽逢冯缝讽奉凤佛否夫敷肤孵扶拂辐幅氟符伏俘服"),
    (0x3821, "浮涪福袱弗甫抚辅俯釜斧脯腑府腐赴副覆赋复傅付阜父腹负富讣附妇缚咐噶嘎该改概钙盖溉干甘杆柑竿肝赶"),
    (0x3850, "感秆敢赣冈刚钢缸肛纲岗港杠篙皋高膏羔糕搞镐稿告哥歌搁戈鸽胳疙割革葛格蛤阁隔铬个各给根跟耕更庚羹"),
    (0x3921, "埂耿梗工攻功恭龚供躬公宫弓巩汞拱贡共钩勾沟苟狗垢构购够辜菇咕箍估沽孤姑鼓古蛊骨谷股故顾固雇刮瓜"),
    (0x3950, "剐寡挂褂乖拐怪棺关官冠观管馆罐惯灌贯光广逛瑰规圭硅归龟闺轨鬼诡癸桂柜跪贵刽辊滚棍锅郭国果裹过哈"),
    (0x3a21, "骸孩海氦亥害骇酣憨邯韩含涵寒函喊罕翰撼捍旱憾悍焊汗汉夯杭航壕嚎豪毫郝好耗号浩呵喝荷菏核禾和何合"),
    (0x3a50, "盒貉阂河涸赫褐鹤贺嘿黑痕很狠恨哼亨横衡恒轰哄烘虹鸿洪宏弘红喉侯猴吼厚候后呼乎忽瑚壶葫胡蝴狐糊湖"),
    (0x3b21, "弧虎唬护互沪户花哗华猾滑画划化话槐徊怀淮坏欢环桓还缓换患唤痪豢焕涣宦幻荒慌黄磺蝗簧皇凰惶煌晃幌"),
    (0x3b50, "恍谎灰挥辉徽恢蛔回毁悔慧卉惠晦贿秽会烩汇讳诲绘荤昏婚魂浑混豁活伙火获或惑霍货祸击圾基机畸稽积箕"),
    (0x3c21, "肌饥迹激讥鸡姬绩缉吉极棘辑籍集及急疾汲即嫉级挤几脊己蓟技冀季伎祭剂悸济寄寂计记既忌际妓继纪嘉枷"),
    (0x3c50, "夹佳家加荚颊贾甲钾假稼价架驾嫁歼监坚尖笺间煎兼肩艰奸缄茧检柬碱硷拣捡简俭剪减荐槛鉴践贱见键箭件"),
    (0x3d21, "健舰剑饯渐溅涧建僵姜将浆江疆蒋桨奖讲匠酱降蕉椒礁焦胶交郊浇骄娇嚼搅铰矫侥脚狡角饺缴绞剿教酵轿较"),
    (0x3d50, "叫窖揭接皆秸街阶截劫节桔杰捷睫竭洁结解姐戒藉芥界借介疥诫届巾筋斤金今津襟紧锦仅谨进靳晋禁近烬浸"),
    (0x3e21, "尽劲荆兢茎睛晶鲸京惊精粳经井警景颈静境敬镜径痉靖竟竞净炯窘揪究纠玖韭久灸九酒厩救旧臼舅咎就疚鞠"),
    (0x3e50, "拘狙疽居驹菊局咀矩举沮聚拒据巨具距踞锯俱句惧炬剧捐鹃娟倦眷卷绢撅攫抉掘倔爵觉决诀绝均菌钧军君峻"),
    (0x3f21, "俊竣浚郡骏喀咖卡咯开揩楷凯慨刊堪勘坎砍看康慷糠扛抗亢炕考拷烤靠坷苛柯棵磕颗科壳咳可渴克刻客课肯"),
    (0x3f50, "啃垦恳坑吭空恐孔控抠口扣寇枯哭窟苦酷库裤夸垮挎跨胯块筷侩快宽款匡筐狂框矿眶旷况亏盔岿窥葵奎魁傀"),
    (0x4021, "馈愧溃坤昆捆困括扩廓阔垃拉喇蜡腊辣啦莱来赖蓝婪栏拦篮阑兰澜谰揽览懒缆烂滥琅榔狼廊郎朗浪捞劳牢老"),
    (0x4050, "佬姥酪烙涝勒乐雷镭蕾磊累儡垒擂肋类泪棱楞冷厘梨犁黎篱狸离漓理李里鲤礼莉荔吏栗丽厉励砾历利傈例俐"),
    (0x4121, "痢立粒沥隶力璃哩俩联莲连镰廉怜涟帘敛脸链恋炼练粮凉梁粱良两辆量晾亮谅撩聊僚疗燎寥辽潦了撂镣廖料"),
    (0x4150, "列裂烈劣猎琳林磷霖临邻鳞淋凛赁吝拎玲菱零龄铃伶羚凌灵陵岭领另令溜琉榴硫馏留刘瘤流柳六龙聋咙笼窿"),
    (0x4221, "隆垄拢陇楼娄搂篓漏陋芦卢颅庐炉掳卤虏鲁麓碌露路赂鹿潞禄录陆戮驴吕铝侣旅履屡缕虑氯律率滤绿峦挛孪"),
    (0x4250, "滦卵乱掠略抡轮伦仑沦纶论萝螺罗逻锣箩骡裸落洛骆络妈麻玛码蚂马骂嘛吗埋买麦卖迈脉瞒馒蛮满蔓曼慢漫"),
    (0x4321, "谩芒茫盲氓忙莽猫茅锚毛矛铆卯茂冒帽貌贸么玫枚梅酶霉煤没眉媒镁每美昧寐妹媚门闷们萌蒙檬盟锰猛梦孟"),
    (0x4350, "眯醚靡糜迷谜弥米秘觅泌蜜密幂棉眠绵冕免勉娩缅面苗描瞄藐秒渺庙妙蔑灭民抿皿敏悯闽明螟鸣铭名命谬摸"),
    (0x4421, "摹蘑模膜磨摩魔抹末莫墨默沫漠寞陌谋牟某拇牡亩姆母墓暮幕募慕木目睦牧穆拿哪呐钠那娜纳氖乃奶耐奈南"),
    (0x4450, "男难囊挠脑恼闹淖呢馁内嫩能妮霓倪泥尼拟你匿腻逆溺蔫拈年碾撵捻念娘酿鸟尿捏聂孽啮镊镍涅您柠狞凝宁"),
    (0x4521, "拧泞牛扭钮纽脓浓农弄奴努怒女暖虐疟挪懦糯诺哦欧鸥殴藕呕偶沤啪趴爬帕怕琶拍排牌徘湃派攀潘盘磐盼畔"),
    (0x4550, "判叛乓庞旁耪胖抛咆刨炮袍跑泡呸胚培裴赔陪配佩沛喷盆砰抨烹澎彭蓬棚硼篷膨朋鹏捧碰坯砒霹批披劈琵毗"),
    (0x4621, "啤脾疲皮匹痞僻屁譬篇偏片骗飘漂瓢票撇瞥拼频贫品聘乒坪苹萍平凭瓶评屏坡泼颇婆破魄迫粕剖扑铺仆莆葡"),
    (0x4650, "菩蒲埔朴圃普浦谱曝瀑期欺栖戚妻七凄漆柒沏其棋奇歧畦崎脐齐旗祈祁骑起岂乞企启契砌器气迄弃汽泣讫掐"),
    (0x4721, "恰洽牵扦钎铅千迁签仟谦乾黔钱钳前潜遣浅谴堑嵌欠歉枪呛腔羌墙蔷强抢橇锹敲悄桥瞧乔侨巧鞘撬翘峭俏窍"),
    (0x4750, "切茄且怯窃钦侵亲秦琴勤芹擒禽寝沁青轻氢倾卿清擎晴氰情顷请庆琼穷秋丘邱球求囚酋泅趋区蛆曲躯屈驱渠"),
    (0x4821, "取娶龋趣去圈颧权醛泉全痊拳犬券劝缺炔瘸却鹊榷确雀裙群然燃冉染瓤壤攘嚷让饶扰绕惹热壬仁人忍韧任认"),
    (0x4850, "刃妊纫扔仍日戎茸蓉荣融熔溶容绒冗揉柔肉茹蠕儒孺如辱乳汝入褥软阮蕊瑞锐闰润若弱撒洒萨腮鳃塞赛三叁"),
    (0x4921, "伞散桑嗓丧搔骚扫嫂瑟色涩森僧莎砂杀刹沙纱傻啥煞筛晒珊苫杉山删煽衫闪陕擅赡膳善汕扇缮墒伤商赏晌上"),
    (0x4950, "尚裳梢捎稍烧芍勺韶少哨邵绍奢赊蛇舌舍赦摄射慑涉社设砷申呻伸身深娠绅神沈审婶甚肾慎渗声生甥牲升绳"),
    (0x4a21, "省盛剩胜圣师失狮施湿诗尸虱十石拾时什食蚀实识史矢使屎驶始式示士世柿事拭誓逝势是嗜噬适仕侍释饰氏"),
    (0x4a50, "市恃室视试收手首守寿授售受瘦兽蔬枢梳殊抒输叔舒淑疏书赎孰熟薯暑曙署蜀黍鼠属术述树束戍竖墅庶数漱"),
    (0x4b21, "恕刷耍摔衰甩帅栓拴霜双爽谁水睡税吮瞬顺舜说硕朔烁斯撕嘶思私司丝死肆寺嗣四伺似饲巳松耸怂颂送宋讼"),
    (0x4b50, "诵搜艘擞嗽苏酥俗素速粟僳塑溯宿诉肃酸蒜算虽隋随绥髓碎岁穗遂隧祟孙损笋蓑梭唆缩琐索锁所塌他它她塔"),
    (0x4c21, "獭挞蹋踏胎苔抬台泰酞太态汰坍摊贪瘫滩坛檀痰潭谭谈坦毯袒碳探叹炭汤塘搪堂棠膛唐糖倘躺淌趟烫掏涛滔"),
    (0x4c50, "绦萄桃逃淘陶讨套特藤腾疼誊梯剔踢锑提题蹄啼体替嚏惕涕剃屉天添填田甜恬舔腆挑条迢眺跳贴铁帖厅听烃"),
    (0x4d21, "汀廷停亭庭挺艇通桐酮瞳同铜彤童桶捅筒统痛偷投头透凸秃突图徒途涂屠土吐兔湍团推颓腿蜕褪退吞屯臀拖"),
    (0x4d50, "托脱鸵陀驮驼椭妥拓唾挖哇蛙洼娃瓦袜歪外豌弯湾玩顽丸烷完碗挽晚皖惋宛婉万腕汪王亡枉网往旺望忘妄威"),
    (0x4e21, "巍微危韦违桅围唯惟为潍维苇萎委伟伪尾纬未蔚味畏胃喂魏位渭谓尉慰卫瘟温蚊文闻纹吻稳紊问嗡翁瓮挝蜗"),
    (0x4e50, "涡窝我斡卧握沃巫呜钨乌污诬屋无芜梧吾吴毋武五捂午舞伍侮坞戊雾晤物勿务悟误昔熙析西硒矽晰嘻吸锡牺"),
    (0x4f21, "稀息希悉膝夕惜熄烯溪汐犀檄袭席习媳喜铣洗系隙戏细瞎虾匣霞辖暇峡侠狭下厦夏吓掀锨先仙鲜纤咸贤衔舷"),
    (0x4f50, "闲涎弦嫌显险现献县腺馅羡宪陷限线相厢镶香箱襄湘乡翔祥详想响享项巷橡像向象萧硝霄削哮嚣销消宵淆晓"),
    (0x5021, "小孝校肖啸笑效楔些歇蝎鞋协挟携邪斜胁谐写械卸蟹懈泄泻谢屑薪芯锌欣辛新忻心信衅星腥猩惺兴刑型形邢"),
    (0x5050, "行醒幸杏性姓兄凶胸匈汹雄熊休修羞朽嗅锈秀袖绣墟戌需虚嘘须徐许蓄酗叙旭序畜恤絮婿绪续轩喧宣悬旋玄"),
    (0x5121, "选癣眩绚靴薛学穴雪血勋熏循旬询寻驯巡殉汛训讯逊迅压押鸦鸭呀丫芽牙蚜崖衙涯雅哑亚讶焉咽阉烟淹盐严"),
    (0x5150, "研蜒岩延言颜阎炎沿奄掩眼衍演艳堰燕厌砚雁唁彦焰宴谚验殃央鸯秧杨扬佯疡羊洋阳氧仰痒养样漾邀腰妖瑶"),
    (0x5221, "摇尧遥窑谣姚咬舀药要耀椰噎耶爷野冶也页掖业叶曳腋夜液一壹医揖铱依伊衣颐夷遗移仪胰疑沂宜姨彝椅蚁"),
    (0x5250, "倚已乙矣以艺抑易邑屹亿役臆逸肄疫亦裔意毅忆义益溢诣议谊译异翼翌绎茵荫因殷音阴姻吟银淫寅饮尹引隐"),
    (0x5321, "印英樱婴鹰应缨莹萤营荧蝇迎赢盈影颖硬映哟拥佣臃痈庸雍踊蛹咏泳涌永恿勇用幽优悠忧尤由邮铀犹油游酉"),
    (0x5350, "有友右佑釉诱又幼迂淤于盂榆虞愚舆余俞逾鱼愉渝渔隅予娱雨与屿禹宇语羽玉域芋郁吁遇喻峪御愈欲狱育誉"),
    (0x5421, "浴寓裕预豫驭鸳渊冤元垣袁原援辕园员圆猿源缘远苑愿怨院曰约越跃钥岳粤月悦阅耘云郧匀陨允运蕴酝晕韵"),
    (0x5450, "孕匝砸杂栽哉灾宰载再在咱攒暂赞赃脏葬遭糟凿藻枣早澡蚤躁噪造皂灶燥责择则泽贼怎增憎曾赠扎喳渣札轧"),
    (0x5521, "铡闸眨栅榨咋乍炸诈摘斋宅窄债寨瞻毡詹粘沾盏斩辗崭展蘸栈占战站湛绽樟章彰漳张掌涨杖丈帐账仗胀瘴障"),
    (0x5550, "招昭找沼赵照罩兆肇召遮折哲蛰辙者锗蔗这浙珍斟真甄砧臻贞针侦枕疹诊震振镇阵蒸挣睁征狰争怔整拯正政"),
    (0x5621, "帧症郑证芝枝支吱蜘知肢脂汁之织职直植殖执值侄址指止趾只旨纸志挚掷至致置帜峙制智秩稚质炙痔滞治窒"),
    (0x5650, "中盅忠钟衷终种肿重仲众舟周州洲诌粥轴肘帚咒皱宙昼骤珠株蛛朱猪诸诛逐竹烛煮拄瞩嘱主著柱助蛀贮铸筑"),
    (0x5721, "住注祝驻抓爪拽专砖转撰赚篆桩庄装妆撞壮状椎锥追赘坠缀谆准捉拙卓桌琢茁酌啄着灼浊兹咨资姿滋淄孜紫"),
    (0x5750, "仔籽滓子自渍字鬃棕踪宗综总纵邹走奏揍租足卒族祖诅阻组钻纂嘴醉最罪尊遵昨左佐柞做作坐座"),
    (0x5821, "亍丌兀丐廿卅丕亘丞鬲孬噩丨禺丿匕乇夭爻卮氐囟胤馗毓睾鼗丶亟鼐乜乩亓芈孛啬嘏仄厍厝厣厥厮靥赝匚叵"),
    (0x5850, "匦匮匾赜卦卣刂刈刎刭刳刿剀剌剞剡剜蒯剽劂劁劐劓冂罔亻仃仉仂仨仡仫仞伛仳伢佤仵伥伧伉伫佞佧攸佚佝"),
    (0x5921, "佟佗伲伽佶佴侑侉侃侏佾佻侪佼侬侔俦俨俪俅俚俣俜俑俟俸倩偌俳倬倏倮倭俾倜倌倥倨偾偃偕偈偎偬偻傥傧"),
    (0x5950, "傩傺僖儆僭僬僦僮儇儋仝氽佘佥俎龠汆籴兮巽黉馘冁夔勹匍訇匐凫夙兕亠兖亳衮袤亵脔裒禀嬴蠃羸冫冱冽冼"),
    (0x5a21, "凇冖冢冥讠讦讧讪讴讵讷诂诃诋诏诎诒诓诔诖诘诙诜诟诠诤诨诩诮诰诳诶诹诼诿谀谂谄谇谌谏谑谒谔谕谖谙"),
    (0x5a50, "谛谘谝谟谠谡谥谧谪谫谮谯谲谳谵谶卩卺阝阢阡阱阪阽阼陂陉陔陟陧陬陲陴隈隍隗隰邗邛邝邙邬邡邴邳邶邺"),
    (0x5b21, "邸邰郏郅邾郐郄郇郓郦郢郜郗郛郫郯郾鄄鄢鄞鄣鄱鄯鄹酃酆刍奂劢劬劭劾哿勐勖勰叟燮矍廴凵凼鬯厶弁畚巯"),
    (0x5b50, "坌垩垡塾墼壅壑圩圬圪圳圹圮圯坜圻坂坩垅坫垆坼坻坨坭坶坳垭垤垌垲埏垧垴垓垠埕埘埚埙埒垸埴埯埸埤埝"),
    (0x5c21, "堋堍埽埭堀堞堙塄堠塥塬墁墉墚墀馨鼙懿艹艽艿芏芊芨芄芎芑芗芙芫芸芾芰苈苊苣芘芷芮苋苌苁芩芴芡芪芟"),
    (0x5c50, "苄苎芤苡茉苷苤茏茇苜苴苒苘茌苻苓茑茚茆茔茕苠苕茜荑荛荜茈莒茼茴茱莛荞茯荏荇荃荟荀茗荠茭茺茳荦荥"),
    (0x5d21, "荨茛荩荬荪荭荮莰荸莳莴莠莪莓莜莅荼莶莩荽莸荻莘莞莨莺莼菁萁菥菘堇萘萋菝菽菖萜萸萑萆菔菟萏萃菸菹"),
    (0x5d50, "菪菅菀萦菰菡葜葑葚葙葳蒇蒈葺蒉葸萼葆葩葶蒌蒎萱葭蓁蓍蓐蓦蒽蓓蓊蒿蒺蓠蒡蒹蒴蒗蓥蓣蔌甍蔸蓰蔹蔟蔺"),
    (0x5e21, "蕖蔻蓿蓼蕙蕈蕨蕤蕞蕺瞢蕃蕲蕻薤薨薇薏蕹薮薜薅薹薷薰藓藁藜藿蘧蘅蘩蘖蘼廾弈夼奁耷奕奚奘匏尢尥尬尴"),
    (0x5e50, "扌扪抟抻拊拚拗拮挢拶挹捋捃掭揶捱捺掎掴捭掬掊捩掮掼揲揸揠揿揄揞揎摒揆掾摅摁搋搛搠搌搦搡摞撄摭撖"),
    (0x5f21, "摺撷撸撙撺擀擐擗擤擢攉攥攮弋忒甙弑卟叱叽叩叨叻吒吖吆呋呒呓呔呖呃吡呗呙吣吲咂咔呷呱呤咚咛咄呶呦"),
    (0x5f50, "咝哐咭哂咴哒咧咦哓哔呲咣哕咻咿哌哙哚哜咩咪咤哝哏哞唛哧唠哽唔哳唢唣唏唑唧唪啧喏喵啉啭啁啕唿啐唼"),
    (0x6021, "唷啖啵啶啷唳唰啜喋嗒喃喱喹喈喁喟啾嗖喑啻嗟喽喾喔喙嗪嗷嗉嘟嗑嗫嗬嗔嗦嗝嗄嗯嗥嗲嗳嗌嗍嗨嗵嗤辔嘞"),
    (0x6050, "嘈嘌嘁嘤嘣嗾嘀嘧嘭噘嘹噗嘬噍噢噙噜噌噔嚆噤噱噫噻噼嚅嚓嚯囔囗囝囡囵囫囹囿圄圊圉圜帏帙帔帑帱帻帼"),
    (0x6121, "帷幄幔幛幞幡岌屺岍岐岖岈岘岙岑岚岜岵岢岽岬岫岱岣峁岷峄峒峤峋峥崂崃崧崦崮崤崞崆崛嵘崾崴崽嵬嵛嵯"),
    (0x6150, "嵝嵫嵋嵊嵩嵴嶂嶙嶝豳嶷巅彳彷徂徇徉後徕徙徜徨徭徵徼衢彡犭犰犴犷犸狃狁狎狍狒狨狯狩狲狴狷猁狳猃狺"),
    (0x6221, "狻猗猓猡猊猞猝猕猢猹猥猬猸猱獐獍獗獠獬獯獾舛夥飧夤夂饣饧饨饩饪饫饬饴饷饽馀馄馇馊馍馐馑馓馔馕庀"),
    (0x6250, "庑庋庖庥庠庹庵庾庳赓廒廑廛廨廪膺忄忉忖忏怃忮怄忡忤忾怅怆忪忭忸怙怵怦怛怏怍怩怫怊怿怡恸恹恻恺恂"),
    (0x6321, "恪恽悖悚悭悝悃悒悌悛惬悻悱惝惘惆惚悴愠愦愕愣惴愀愎愫慊慵憬憔憧憷懔懵忝隳闩闫闱闳闵闶闼闾阃阄阆"),
    (0x6350, "阈阊阋阌阍阏阒阕阖阗阙阚丬爿戕氵汔汜汊沣沅沐沔沌汨汩汴汶沆沩泐泔沭泷泸泱泗沲泠泖泺泫泮沱泓泯泾"),
    (0x6421, "洹洧洌浃浈洇洄洙洎洫浍洮洵洚浏浒浔洳涑浯涞涠浞涓涔浜浠浼浣渚淇淅淞渎涿淠渑淦淝淙渖涫渌涮渫湮湎"),
    (0x6450, "湫溲湟溆湓湔渲渥湄滟溱溘滠漭滢溥溧溽溻溷滗溴滏溏滂溟潢潆潇漤漕滹漯漶潋潴漪漉漩澉澍澌潸潲潼潺濑"),
    (0x6521, "濉澧澹澶濂濡濮濞濠濯瀚瀣瀛瀹瀵灏灞宀宄宕宓宥宸甯骞搴寤寮褰寰蹇謇辶迓迕迥迮迤迩迦迳迨逅逄逋逦逑"),
    (0x6550, "逍逖逡逵逶逭逯遄遑遒遐遨遘遢遛暹遴遽邂邈邃邋彐彗彖彘尻咫屐屙孱屣屦羼弪弩弭艴弼鬻屮妁妃妍妩妪妣"),
    (0x6621, "妗姊妫妞妤姒妲妯姗妾娅娆姝娈姣姘姹娌娉娲娴娑娣娓婀婧婊婕娼婢婵胬媪媛婷婺媾嫫媲嫒嫔媸嫠嫣嫱嫖嫦"),
    (0x6650, "嫘嫜嬉嬗嬖嬲嬷孀尕尜孚孥孳孑孓孢驵驷驸驺驿驽骀骁骅骈骊骐骒骓骖骘骛骜骝骟骠骢骣骥骧纟纡纣纥纨纩"),
    (0x6721, "纭纰纾绀绁绂绉绋绌绐绔绗绛绠绡绨绫绮绯绱绲缍绶绺绻绾缁缂缃缇缈缋缌缏缑缒缗缙缜缛缟缡缢缣缤缥缦"),
    (0x6750, "缧缪缫缬缭缯缰缱缲缳缵幺畿巛甾邕玎玑玮玢玟珏珂珑玷玳珀珉珈珥珙顼琊珩珧珞玺珲琏琪瑛琦琥琨琰琮琬"),
    (0x6821, "琛琚瑁瑜瑗瑕瑙瑷瑭瑾璜璎璀璁璇璋璞璨璩璐璧瓒璺韪韫韬杌杓杞杈杩枥枇杪杳枘枧杵枨枞枭枋杷杼柰栉柘"),
    (0x6850, "栊柩枰栌柙枵柚枳柝栀柃枸柢栎柁柽栲栳桠桡桎桢桄桤梃栝桕桦桁桧桀栾桊桉栩梵梏桴桷梓桫棂楮棼椟椠棹"),
    (0x6921, "椤棰椋椁楗棣椐楱椹楠楂楝榄楫榀榘楸椴槌榇榈槎榉楦楣楹榛榧榻榫榭槔榱槁槊槟榕槠榍槿樯槭樗樘橥槲橄"),
    (0x6950, "樾檠橐橛樵檎橹樽樨橘橼檑檐檩檗檫猷獒殁殂殇殄殒殓殍殚殛殡殪轫轭轱轲轳轵轶轸轷轹轺轼轾辁辂辄辇辋"),
    (0x6a21, "辍辎辏辘辚軎戋戗戛戟戢戡戥戤戬臧瓯瓴瓿甏甑甓攴旮旯旰昊昙杲昃昕昀炅曷昝昴昱昶昵耆晟晔晁晏晖晡晗"),
    (0x6a50, "晷暄暌暧暝暾曛曜曦曩贲贳贶贻贽赀赅赆赈赉赇赍赕赙觇觊觋觌觎觏觐觑牮犟牝牦牯牾牿犄犋犍犏犒挈挲掰"),
    (0x6b21, "搿擘耄毪毳毽毵毹氅氇氆氍氕氘氙氚氡氩氤氪氲攵敕敫牍牒牖爰虢刖肟肜肓肼朊肽肱肫肭肴肷胧胨胩胪胛胂"),
    (0x6b50, "胄胙胍胗朐胝胫胱胴胭脍脎胲胼朕脒豚脶脞脬脘脲腈腌腓腴腙腚腱腠腩腼腽腭腧塍媵膈膂膑滕膣膪臌朦臊膻"),
    (0x6c21, "臁膦欤欷欹歃歆歙飑飒飓飕飙飚殳彀毂觳斐齑斓於旆旄旃旌旎旒旖炀炜炖炝炻烀炷炫炱烨烊焐焓焖焯焱煳煜"),
    (0x6c50, "煨煅煲煊煸煺熘熳熵熨熠燠燔燧燹爝爨灬焘煦熹戾戽扃扈扉礻祀祆祉祛祜祓祚祢祗祠祯祧祺禅禊禚禧禳忑忐"),
    (0x6d21, "怼恝恚恧恁恙恣悫愆愍慝憩憝懋懑戆肀聿沓泶淼矶矸砀砉砗砘砑斫砭砜砝砹砺砻砟砼砥砬砣砩硎硭硖硗砦硐"),
    (0x6d50, "硇硌硪碛碓碚碇碜碡碣碲碹碥磔磙磉磬磲礅磴礓礤礞礴龛黹黻黼盱眄眍盹眇眈眚眢眙眭眦眵眸睐睑睇睃睚睨"),
    (0x6e21, "睢睥睿瞍睽瞀瞌瞑瞟瞠瞰瞵瞽町畀畎畋畈畛畲畹疃罘罡罟詈罨罴罱罹羁罾盍盥蠲钅钆钇钋钊钌钍钏钐钔钗钕"),
    (0x6e50, "钚钛钜钣钤钫钪钭钬钯钰钲钴钶钷钸钹钺钼钽钿铄铈铉铊铋铌铍铎铐铑铒铕铖铗铙铘铛铞铟铠铢铤铥铧铨铪"),
    (0x6f21, "铩铫铮铯铳铴铵铷铹铼铽铿锃锂锆锇锉锊锍锎锏锒锓锔锕锖锘锛锝锞锟锢锪锫锩锬锱锲锴锶锷锸锼锾锿镂锵"),
    (0x6f50, "镄镅镆镉镌镎镏镒镓镔镖镗镘镙镛镞镟镝镡镢"), (0x6f6d, "镯镱镲镳锺矧矬雉秕秭秣秫稆嵇稃稂稞稔"),
    (0x7021, "稹稷穑黏馥穰皈皎皓皙皤瓞瓠甬鸠鸢鸨鸩鸪鸫鸬鸲鸱鸶鸸鸷鸹鸺鸾鹁鹂鹄鹆鹇鹈鹉鹋鹌鹎鹑鹕鹗鹚鹛鹜鹞鹣"),
    (0x7050, "鹦鹧鹨鹩鹪鹫鹬鹱鹭鹳疒疔疖疠疝疬疣疳疴疸痄疱疰痃痂痖痍痣痨痦痤痫痧瘃痱痼痿瘐瘀瘅瘌瘗瘊瘥瘘瘕瘙"),
    (0x7121, "瘛瘼瘢瘠癀瘭瘰瘿瘵癃瘾瘳癍癞癔癜癖癫癯翊竦穸穹窀窆窈窕窦窠窬窨窭窳衤衩衲衽衿袂袢裆袷袼裉裢裎裣"),
    (0x7150, "裥裱褚裼裨裾裰褡褙褓褛褊褴褫褶襁襦襻疋胥皲皴矜耒耔耖耜耠耢耥耦耧耩耨耱耋耵聃聆聍聒聩聱覃顸颀颃"),
    (0x7221, "颉颌颍颏颔颚颛颞颟颡颢颥颦虍虔虬虮虿虺虼虻蚨蚍蚋蚬蚝蚧蚣蚪蚓蚩蚶蛄蚵蛎蚰蚺蚱蚯蛉蛏蚴蛩蛱蛲蛭蛳"),
    (0x7250, "蛐蜓蛞蛴蛟蛘蛑蜃蜇蛸蜈蜊蜍蜉蜣蜻蜞蜥蜮蜚蜾蝈蜴蜱蜩蜷蜿螂蜢蝽蝾蝻蝠蝰蝌蝮螋蝓蝣蝼蝤蝙蝥螓螯螨蟒"),
    (0x7321, "蟆螈螅螭螗螃螫蟥螬螵螳蟋蟓螽蟑蟀蟊蟛蟪蟠蟮蠖蠓蟾蠊蠛蠡蠹蠼缶罂罄罅舐竺竽笈笃笄笕笊笫笏筇笸笪笙"),
    (0x7350, "笮笱笠笥笤笳笾笞筘筚筅筵筌筝筠筮筻筢筲筱箐箦箧箸箬箝箨箅箪箜箢箫箴篑篁篌篝篚篥篦篪簌篾篼簏簖簋"),
    (0x7421, "簟簪簦簸籁籀臾舁舂舄臬衄舡舢舣舭舯舨舫舸舻舳舴舾艄艉艋艏艚艟艨衾袅袈裘裟襞羝羟羧羯羰羲籼敉粑粝"),
    (0x7450, "粜粞粢粲粼粽糁糇糌糍糈糅糗糨艮暨羿翎翕翥翡翦翩翮翳糸絷綦綮繇纛麸麴赳趄趔趑趱赧赭豇豉酊酐酎酏酤"),
    (0x7521, "酢酡酰酩酯酽酾酲酴酹醌醅醐醍醑醢醣醪醭醮醯醵醴醺豕鹾趸跫踅蹙蹩趵趿趼趺跄跖跗跚跞跎跏跛跆跬跷跸"),
    (0x7550, "跣跹跻跤踉跽踔踝踟踬踮踣踯踺蹀踹踵踽踱蹉蹁蹂蹑蹒蹊蹰蹶蹼蹯蹴躅躏躔躐躜躞豸貂貊貅貘貔斛觖觞觚觜"),
    (0x7621, "觥觫觯訾謦靓雩雳雯霆霁霈霏霎霪霭霰霾龀龃龅龆龇龈龉龊龌黾鼋鼍隹隼隽雎雒瞿雠銎銮鋈錾鍪鏊鎏鐾鑫鱿"),
    (0x7650, "鲂鲅鲆鲇鲈稣鲋鲎鲐鲑鲒鲔鲕鲚鲛鲞鲟鲠鲡鲢鲣鲥鲦鲧鲨鲩鲫鲭鲮"),
    (0x7675, "鲺鲻鲼鲽鳄鳅鳆鳇鳊鳋"), (0x7721, "鳌鳍鳎鳏鳐鳓鳔鳕鳗鳘鳙鳜鳝鳟鳢靼鞅鞑鞒鞔鞯鞫鞣鞲鞴骱骰骷鹘骶骺骼髁髀髅髂髋髌髑魅魃魇魉魈魍魑飨"),
    (0x7750, "餍餮饕饔髟髡髦髯髫髻髭髹鬈鬏鬓鬟鬣麽麾縻麂麇麈麋麒鏖麝麟黛黜黝黠黟黢黩黧黥黪黯鼢鼬鼯鼹鼷鼽鼾齄")]

/-- What pairs of octets add or change. -/
def gbPairs : Table where
  spans := [
    (0x816c, 0x8175, 0x4e74), (0x8248, 0x8250, 0x4fb6), (0x8273, 0x827e, 0x4fff),
    (0x8291, 0x829b, 0x502f), (0x82b3, 0x82ba, 0x505d), (0x82c1, 0x82c9, 0x506d),
    (0x82d9, 0x82ed, 0x508e), (0x8340, 0x8351, 0x50bd), (0x835b, 0x8365, 0x50db),
    (0x8374, 0x837d, 0x50fc), (0x8388, 0x8395, 0x5113), (0x8396, 0x83b2, 0x5122),
    (0x8491, 0x849a, 0x5273), (0x84ba, 0x84c3, 0x52b4), (0x84df, 0x84e9, 0x52e5),
    (0x84ea, 0x84f1, 0x52f1), (0x8552, 0x855b, 0x532f), (0x85e1, 0x85e8, 0x5469),
    (0x86c8, 0x86d0, 0x55a8), (0x8745, 0x874c, 0x5610), (0x8765, 0x8770, 0x5640),
    (0x8790, 0x8797, 0x567d), (0x87a2, 0x87b0, 0x5694), (0x87b1, 0x87bb, 0x56a4),
    (0x87c7, 0x87d3, 0x56bd), (0x87d4, 0x87dc, 0x56cb), (0x8840, 0x8849, 0x5712),
    (0x88a0, 0x88a8, 0x57b9), (0x88bd, 0x88c4, 0x57e5), (0x88f7, 0x88fe, 0x5836),
    (0x8965, 0x8975, 0x586d), (0x898d, 0x8994, 0x58a0), (0x8995, 0x89a6, 0x58aa),
    (0x89ae, 0x89b8, 0x58c6), (0x89bc, 0x89c9, 0x58d6), (0x89d8, 0x89df, 0x58fa),
    (0x8a56, 0x8a62, 0x5966), (0x8aab, 0x8ab6, 0x59ed), (0x8aeb, 0x8af4, 0x5a4b),
    (0x8b47, 0x8b4f, 0x5a6b), (0x8b56, 0x8b67, 0x5a80), (0x8b6f, 0x8b7c, 0x5a9c),
    (0x8bb0, 0x8bc6, 0x5af2), (0x8bc7, 0x8bd2, 0x5b0a), (0x8bd3, 0x8bec, 0x5b18),
    (0x8bf0, 0x8bf7, 0x5b38), (0x8c40, 0x8c47, 0x5b48), (0x8c81, 0x8c89, 0x5bd4),
    (0x8d70, 0x8d79, 0x5cf1), (0x8da4, 0x8dab, 0x5d35), (0x8dac, 0x8db3, 0x5d3f),
    (0x8db6, 0x8dc0, 0x5d4d), (0x8dc4, 0x8dce, 0x5d5e), (0x8dd6, 0x8de2, 0x5d75),
    (0x8de3, 0x8df8, 0x5d83), (0x8e40, 0x8e55, 0x5da1), (0x8e56, 0x8e62, 0x5db8),
    (0x8e6a, 0x8e76, 0x5dce), (0x8e94, 0x8e9b, 0x5e1e), (0x8ec5, 0x8ed3, 0x5e63),
    (0x8f4f, 0x8f5a, 0x5edc), (0x8f5c, 0x8f64, 0x5eeb), (0x8f90, 0x8f9e, 0x5f41),
    (0x90a2, 0x90a9, 0x60bd), (0x90e5, 0x90f7, 0x612c), (0x9164, 0x9176, 0x6178),
    (0x9187, 0x918f, 0x619e), (0x9192, 0x919b, 0x61ad), (0x91b1, 0x91c1, 0x61d5),
    (0x91c2, 0x91cf, 0x61e7), (0x91d0, 0x91d8, 0x61f6), (0x92c2, 0x92c9, 0x6356),
    (0x93a7, 0x93ae, 0x645f), (0x93b3, 0x93bc, 0x646e), (0x93c6, 0x93ce, 0x6488),
    (0x9448, 0x9460, 0x64e7), (0x9461, 0x9468, 0x6501), (0x9469, 0x9470, 0x650a),
    (0x9476, 0x947e, 0x6519), (0x94b5, 0x94c3, 0x6578), (0x94da, 0x94e1, 0x65b1),
    (0x94f2, 0x94f9, 0x65d8), (0x95af, 0x95b7, 0x669e), (0x95ca, 0x95e3, 0x66bf),
    (0x95e5, 0x95ec, 0x66de), (0x96a2, 0x96a9, 0x67b9), (0x96ab, 0x96b4, 0x67c5),
    (0x96c5, 0x96cc, 0x67f5), (0x9745, 0x974c, 0x686c), (0x974e, 0x9756, 0x6878),
    (0x9759, 0x9760, 0x6887), (0x9767, 0x9770, 0x6898), (0x97a0, 0x97a9, 0x68e4),
    (0x97c1, 0x97cc, 0x6913), (0x97d0, 0x97d7, 0x6925), (0x97e7, 0x97f7, 0x6943),
    (0x9866, 0x986f, 0x699d), (0x9883, 0x988a, 0x69c2), (0x989a, 0x98a5, 0x69e1),
    (0x98aa, 0x98b3, 0x69f3), (0x98b5, 0x98be, 0x6a00), (0x98bf, 0x98ca, 0x6a0b),
    (0x98ef, 0x98f6, 0x6a48), (0x9948, 0x9952, 0x6a66), (0x9962, 0x996a, 0x6a85),
    (0x9971, 0x9978, 0x6a98), (0x9983, 0x99f5, 0x6aad), (0x9a54, 0x9a5f, 0x6b4d),
    (0x9a60, 0x9a67, 0x6b5a), (0x9a6a, 0x9a77, 0x6b6b), (0x9a8f, 0x9a96, 0x6ba2),
    (0x9a97, 0x9a9e, 0x6bab), (0x9aba, 0x9ac1, 0x6be2), (0x9c5d, 0x9c64, 0x6dfd),
    (0x9c83, 0x9c8a, 0x6e3b), (0x9c8b, 0x9c92, 0x6e45), (0x9c9e, 0x9ca8, 0x6e60),
    (0x9cab, 0x9cb9, 0x6e6f), (0x9d48, 0x9d4f, 0x6efa), (0x9d5d, 0x9d66, 0x6f16),
    (0x9d87, 0x9d90, 0x6f4e), (0x9db6, 0x9dc2, 0x6f8f), (0x9dcc, 0x9dd6, 0x6fa8),
    (0x9def, 0x9df9, 0x6fd3), (0x9e40, 0x9e47, 0x6fe6), (0x9e48, 0x9e68, 0x6ff0),
    (0x9e69, 0x9e70, 0x7012), (0x9e80, 0x9e89, 0x702b), (0x9e8d, 0x9e9e, 0x703a),
    (0x9ea1, 0x9eae, 0x7050), (0x9eaf, 0x9eba, 0x705f), (0x9ed7, 0x9ee3, 0x709e),
    (0x9ef1, 0x9efd, 0x70cb), (0x9f55, 0x9f5f, 0x70fe), (0x9f69, 0x9f73, 0x711b),
    (0x9f74, 0x9f7b, 0x7127), (0x9f81, 0x9f8e, 0x7137), (0x9f95, 0x9fa1, 0x714f),
    (0x9fe7, 0x9fef, 0x71ba), (0x9ff0, 0x9ff9, 0x71c4), (0xa040, 0xa049, 0x71d6),
    (0xa055, 0xa05e, 0x71ef), (0xa05f, 0xa06a, 0x71fa), (0xa06b, 0xa07e, 0x7207),
    (0xa082, 0xa08b, 0x721e), (0xa0cb, 0xa0d6, 0x7293), (0xa0d7, 0xa0e2, 0x72a0),
    (0xa2a1, 0xa2aa, 0x2170), (0xa854, 0xa877, 0x2550), (0xa880, 0xa887, 0x2588),
    (0xa940, 0xa948, 0x3021), (0xa968, 0xa971, 0xfe49), (0xa976, 0xa97e, 0xfe59),
    (0xaa76, 0xaa7e, 0x7340), (0xaa8b, 0xaa92, 0x7358), (0xaa93, 0xaa9d, 0x7361),
    (0xab40, 0xab4b, 0x7372), (0xac40, 0xac4a, 0x73f8), (0xac52, 0xac5a, 0x7411),
    (0xac73, 0xac7e, 0x7442), (0xac8a, 0xac96, 0x7460), (0xad4e, 0xad58, 0x7491),
    (0xad5a, 0xad61, 0x749f), (0xad62, 0xad71, 0x74aa), (0xad72, 0xad7e, 0x74bb),
    (0xad80, 0xad89, 0x74c8), (0xad8a, 0xad92, 0x74d3), (0xae4d, 0xae54, 0x7505),
    (0xae80, 0xae87, 0x755d), (0xb062, 0xb069, 0x7670), (0xb080, 0xb087, 0x769c),
    (0xb088, 0xb090, 0x76a5), (0xb094, 0xb09d, 0x76b5), (0xb151, 0xb158, 0x76e6),
    (0xb169, 0xb173, 0x770e), (0xb190, 0xb197, 0x7748), (0xb198, 0xb19f, 0x7752),
    (0xb248, 0xb253, 0x776d), (0xb262, 0xb26d, 0x7793), (0xb282, 0xb28e, 0x77c0),
    (0xb28f, 0xb297, 0x77ce), (0xb382, 0xb38d, 0x785e), (0xb38e, 0xb395, 0x786f),
    (0xb453, 0xb45a, 0x78a8), (0xb475, 0xb47e, 0x78da), (0xb546, 0xb54f, 0x7914),
    (0xb555, 0xb563, 0x7925), (0xb570, 0xb578, 0x794a), (0xb647, 0xb652, 0x799b),
    (0xb653, 0xb65d, 0x79a8), (0xb744, 0xb752, 0x7a24), (0xb75f, 0xb768, 0x7a47),
    (0xb76e, 0xb77e, 0x7a58), (0xb84b, 0xb855, 0x7ab4), (0xb856, 0xb860, 0x7ac0),
    (0xb861, 0xb86a, 0x7acc), (0xb95d, 0xb967, 0x7b63), (0xb996, 0xb99d, 0x7bb9),
    (0xba69, 0xba70, 0x7bff), (0xba8d, 0xba99, 0x7c2b), (0xbb40, 0xbb49, 0x7c43),
    (0xbb4a, 0xbb6e, 0x7c4e), (0xbb75, 0xbb7e, 0x7c7e), (0xbc61, 0xbc68, 0x7cf0),
    (0xbc6b, 0xbc78, 0x7cfc), (0xbc80, 0xbc8e, 0x7d11), (0xbd40, 0xbd76, 0x7d37),
    (0xbd77, 0xbd7e, 0x7d6f), (0xbd80, 0xbda0, 0x7d78), (0xbe40, 0xbe4c, 0x7d99),
    (0xbe54, 0xbe7e, 0x7daf), (0xbe80, 0xbea0, 0x7dda), (0xbf40, 0xbf7e, 0x7dfb),
    (0xbf8b, 0xbfa0, 0x7e48), (0xc040, 0xc063, 0x7e5e), (0xc064, 0xc07b, 0x7e83),
    (0xc095, 0xc09e, 0x7f46), (0xc15c, 0xc163, 0x7f82), (0xc281, 0xc28e, 0x805b),
    (0xc295, 0xc2a0, 0x8072), (0xc387, 0xc393, 0x811f), (0xc482, 0xc489, 0x81ab),
    (0xc540, 0xc54e, 0x81d4), (0xc58b, 0xc592, 0x8250), (0xc598, 0xc59f, 0x8260),
    (0xc68f, 0xc698, 0x831d), (0xc863, 0xc86a, 0x8429), (0xc874, 0xc87b, 0x843e),
    (0xc94b, 0xc952, 0x848f), (0xc95a, 0xc966, 0x84a2), (0xc991, 0xc99b, 0x84f1),
    (0xca40, 0xca48, 0x8503), (0xca58, 0xca60, 0x8522), (0xca61, 0xca6a, 0x852d),
    (0xca74, 0xca7e, 0x854b), (0xca8e, 0xca96, 0x8569), (0xcb4a, 0xcb54, 0x8590),
    (0xcb92, 0xcba0, 0x85ea), (0xcc4a, 0xcc54, 0x8606), (0xcc59, 0xcc68, 0x8617),
    (0xcc6a, 0xcc77, 0x862a), (0xcc80, 0xcc8b, 0x8641), (0xcc99, 0xcca0, 0x8663),
    (0xce72, 0xce79, 0x8766), (0xcf75, 0xcf7e, 0x87ef), (0xcf8e, 0xcf95, 0x880b),
    (0xd040, 0xd04d, 0x8824), (0xd240, 0xd248, 0x8938), (0xd24b, 0xd263, 0x8945),
    (0xd26a, 0xd27d, 0x8967), (0xd286, 0xd2a0, 0x8987), (0xd340, 0xd35e, 0x89a2),
    (0xd38b, 0xd3a0, 0x8a08), (0xd440, 0xd45f, 0x8a1e), (0xd460, 0xd468, 0x8a3f),
    (0xd469, 0xd47e, 0x8a49), (0xd480, 0xd499, 0x8a5f), (0xd540, 0xd547, 0x8a81),
    (0xd548, 0xd54f, 0x8a8b), (0xd550, 0xd57e, 0x8a94), (0xd580, 0xd5a0, 0x8ac3),
    (0xd640, 0xd662, 0x8ae4), (0xd663, 0xd67e, 0x8b08), (0xd682, 0xd6a0, 0x8b27),
    (0xd740, 0xd75f, 0x8b46), (0xd765, 0xd77e, 0x8b6d), (0xd780, 0xd798, 0x8b87),
    (0xd840, 0xd848, 0x8c38), (0xd850, 0xd857, 0x8c4d), (0xd88c, 0xd8a0, 0x8c99),
    (0xd940, 0xd97e, 0x8cae), (0xd980, 0xd9a0, 0x8ced), (0xda40, 0xda4e, 0x8d0e),
    (0xda5d, 0xda65, 0x8d78), (0xda73, 0xda7c, 0x8d95), (0xda81, 0xda8d, 0x8da4),
    (0xdb64, 0xdb6b, 0x8e15), (0xdb8f, 0xdb9a, 0x8e5a), (0xdc60, 0xdc6b, 0x8e9f),
    (0xdc77, 0xdc7e, 0x8ebb), (0xdc80, 0xdc8a, 0x8ec3), (0xdc8b, 0xdca0, 0x8ecf),
    (0xdd40, 0xdd7e, 0x8ee5), (0xdd80, 0xdda0, 0x8f24), (0xde40, 0xde60, 0x8f45),
    (0xe068, 0xe07b, 0x9105), (0xe084, 0xe08e, 0x9124), (0xe097, 0xe09f, 0x913a),
    (0xe180, 0xe18a, 0x91bc), (0xe18e, 0xe197, 0x91d2), (0xe198, 0xe1a0, 0x91dd),
    (0xe240, 0xe27e, 0x91e6), (0xe280, 0xe2a0, 0x9225), (0xe340, 0xe36d, 0x9246),
    (0xe36e, 0xe37e, 0x9275), (0xe380, 0xe387, 0x9286), (0xe388, 0xe3a0, 0x928f),
    (0xe446, 0xe45e, 0x92af), (0xe45f, 0xe47e, 0x92c9), (0xe480, 0xe4a0, 0x92e9),
    (0xe540, 0xe573, 0x930a), (0xe574, 0xe57e, 0x933f), (0xe580, 0xe59f, 0x934a),
    (0xe640, 0xe662, 0x936c), (0xe663, 0xe67e, 0x9390), (0xe680, 0xe69d, 0x93ac),
    (0xe740, 0xe747, 0x93ce), (0xe748, 0xe77e, 0x93d7), (0xe780, 0xe7a0, 0x940e),
    (0xe840, 0xe84e, 0x942f), (0xe84f, 0xe87a, 0x943f), (0xe880, 0xe894, 0x9470),
    (0xe94c, 0xe953, 0x9577), (0xe954, 0xe97e, 0x9580), (0xe980, 0xe9a0, 0x95ab),
    (0xea40, 0xea5b, 0x95cc), (0xea91, 0xea9d, 0x9678), (0xeb49, 0xeb52, 0x969d),
    (0xeb53, 0xeb5a, 0x96a8), (0xeb6d, 0xeb76, 0x96d6), (0xec40, 0xec48, 0x9721),
    (0xec57, 0xec69, 0x973f), (0xec77, 0xec7e, 0x976a), (0xec87, 0xec8e, 0x977d),
    (0xed50, 0xed7e, 0x97b5), (0xed89, 0xeda0, 0x97f7), (0xee40, 0xee7e, 0x980f),
    (0xee80, 0xeea0, 0x984e), (0xef4c, 0xef71, 0x98a8), (0xef82, 0xefa0, 0x98e9),
    (0xf047, 0xf063, 0x9911), (0xf064, 0xf07e, 0x992f), (0xf080, 0xf089, 0x994a),
    (0xf08a, 0xf096, 0x9956), (0xf142, 0xf14c, 0x999a), (0xf14f, 0xf17e, 0x99a9),
    (0xf180, 0xf1a0, 0x99d9), (0xf240, 0xf27e, 0x99fa), (0xf280, 0xf2a0, 0x9a39),
    (0xf340, 0xf351, 0x9a5a), (0xf38d, 0xf395, 0x9af0), (0xf44a, 0xf454, 0x9b14),
    (0xf458, 0xf462, 0x9b24), (0xf465, 0xf46c, 0x9b33), (0xf480, 0xf4a0, 0x9b5b),
    (0xf540, 0xf57e, 0x9b7c), (0xf580, 0xf5a0, 0x9bbb), (0xf640, 0xf67e, 0x9bdc),
    (0xf680, 0xf6a0, 0x9c1b), (0xf740, 0xf77e, 0x9c3c), (0xf840, 0xf87e, 0x9ce3),
    (0xf880, 0xf8a0, 0x9d22), (0xf940, 0xf97e, 0x9d43), (0xf980, 0xf9a0, 0x9d82),
    (0xfa40, 0xfa7e, 0x9da3), (0xfa80, 0xfaa0, 0x9de2), (0xfb40, 0xfb5b, 0x9e03),
    (0xfb74, 0xfb7d, 0x9e74), (0xfb8d, 0xfb95, 0x9e94), (0xfc40, 0xfc48, 0x9eab),
    (0xfc6d, 0xfc75, 0x9ef0), (0xfc94, 0xfc9c, 0x9f23), (0xfd4d, 0xfd57, 0x9f45),
    (0xfd58, 0xfd7e, 0x9f52), (0xfd88, 0xfd93, 0x9f8d)]
  runs := [
    (0x8140, "丂丄丅丆丏丒丗丟丠両丣並丩丮丯丱丳丵丷丼乀乁乂乄乆乊乑乕乗乚乛乢乣乤乥乧乨乪乫乬乭乮乯乲"),
    (0x8176, "乿亀亁亂亃亄亅亇亊"), (0x8180, "亐亖亗亙亜亝亞亣亪亯亰亱亴亶亷亸亹亼亽亾仈仌仏仐仒仚仛仜仠仢仦仧仩仭仮仯仱仴仸仹仺仼仾伀伂伃伄伅"),
    (0x81b0, "伆伇伈伋伌伒伓伔伕伖伜伝伡伣伨伩伬伭伮伱伳伵伷伹伻伾伿佀佁佂佄佅佇佈佉佊佋佌佒佔佖佡佢佦佨佪佫佭"),
    (0x81e0, "佮佱佲併佷佸佹佺佽侀侁侂侅來侇侊侌侎侐侒侓侕侖侘侙侚侜侞侟価侢"),
    (0x8240, "侤侫侭侰侱侲侳侴"), (0x8251, "俀俁係俆俇俈俉俋俌俍俒俓俔俕俖俙俛俠俢俤俥俧俫俬俰俲俴俵俶俷俹俻俼俽"),
    (0x8280, "個倎倐們倓倕倖倗倛倝倞倠倢倣値倧倫"), (0x829c, "倻倽倿偀偁偂偄偅偆偉偊偋偍偐偑偒偓偔偖偗偘偙偛"),
    (0x82bb, "偦偧偨偩偪偫"), (0x82ca, "偸偹偺偼偽傁傂傃傄傆傇傉傊傋傌"), (0x82ee, "傤傦傪傫傭傮傯傰傱傳傴債傶傷傸傹傼"),
    (0x8352, "僐僑僒僓僔僕僗僘僙"), (0x8366, "僨僩僪僫僯僰僱僲僴僶僷僸價僺"), (0x837e, "儈"), (0x8380, "儉儊儌儍儎儏儐儑"),
    (0x83b3, "兂兇兊兌兎兏児兒兓兗兘兙兛兝兞兟兠兡兣兤兦內兩兪兯兲兺兾兿冃冄円冇冊冋冎冏冐冑冓冔冘冚冝冞冟冡冣"),
    (0x83e3, "冦冧冨冩冪冭冮冴冸冹冺冾冿凁凂凃凅凈凊凍凎凐凒凓凔凕凖凗"),
    (0x8440, "凘凙凚凜凞凟凢凣凥処凧凨凩凪凬凮凱凲凴凷凾刄刅刉刋刌刏刐刓刔刕刜刞刟刡刢刣別刦刧刪刬刯刱刲刴刵刼"),
    (0x8470, "刾剄剅剆則剈剉剋剎剏剒剓剕剗剘"), (0x8480, "剙剚剛剝剟剠剢剣剤剦剨剫剬剭剮剰剱"),
    (0x849b, "剾劀劃劄劅劆劇劉劊劋劌劍劎劏劑劒劔劕劖劗劘劙劚劜劤劥劦劧劮劯劰"),
    (0x84c4, "勀勁勂勄勅勆勈勊勌勍勎勏勑勓勔動勗務勚勛勜勝勞勠勡勢勣"),
    (0x84f2, "勻勼勽匁匂匃匄匇匉匊匋匌匎"), (0x8540, "匑匒匓匔匘匛匜匞匟匢匤匥匧匨匩匫匬匭"),
    (0x855c, "匼匽區卂卄卆卋卌卍卐協単卙卛卝卥卨卪卬卭卲卶卹卻卼卽卾厀厁厃厇厈厊厎厏"),
    (0x8580, "厐厑厒厓厔厖厗厙厛厜厞厠厡厤厧厪厫厬厭厯厰厱厲厳厴厵厷厸厹厺厼厽厾叀參叄叅叆叇収叏叐叒叓叕叚叜叝"),
    (0x85b0, "叞叡叢叧叴叺叾叿吀吂吅吇吋吔吘吙吚吜吢吤吥吪吰吳吶吷吺吽吿呁呂呄呅呇呉呌呍呎呏呑呚呝呞呟呠呡呣呥"),
    (0x85e0, "呧"), (0x85e9, "呴呹呺呾呿咁咃咅咇咈咉咊咍咑咓咗咘咜咞咟咠咡"),
    (0x8640, "咢咥咮咰咲咵咶咷咹咺咼咾哃哅哊哋哖哘哛哠員哢哣哤哫哬哯哰哱哴哵哶哷哸哹哻哾唀唂唃唄唅唈唊唋唌唍唎"),
    (0x8670, "唒唓唕唖唗唘唙唚唜唝唞唟唡唥唦"), (0x8680, "唨唩唫唭唲唴唵唶唸唹唺唻唽啀啂啅啇啈啋啌啍啎問啑啒啓啔啗啘啙啚啛啝啞啟啠啢啣啨啩啫啯啰啱啲啳啴啹"),
    (0x86b0, "啺啽啿喅喆喌喍喎喐喒喓喕喖喗喚喛喞喠喡喢喣喤喥喦"),
    (0x86d1, "喲喴営喸喺喼喿嗀嗁嗂嗃嗆嗇嗈嗊嗋嗎嗏嗐嗕嗗嗘嗙嗚嗛嗞嗠嗢嗧嗩嗭嗮嗰嗱嗴嗶嗸嗹嗺嗻嗼嗿嘂嘃嘄嘅"),
    (0x8740, "嘆嘇嘊嘋嘍"), (0x874d, "嘙嘚嘜嘝嘠嘡嘢嘥嘦嘨嘩嘪嘫嘮嘯嘰嘳嘵嘷嘸嘺嘼嘽嘾"),
    (0x8771, "噏噐噑噒噓噕噖噚噛噝噞噟噠噡"), (0x8780, "噣噥噦噧噭噮噯噰噲噳噴噵噷噸噹噺"), (0x8798, "嚇嚈嚉嚊嚋嚌嚍嚐嚑嚒"),
    (0x87bc, "嚰嚱嚲嚳嚴嚵嚶嚸嚹嚺嚻"), (0x87dd, "囕囖囘囙囜団囥囦囧囨囩囪囬囮囯囲図囶囷囸囻囼圀圁圂圅圇國圌圍圎圏圐圑"),
    (0x884a, "圝圞圠圡圢圤圥圦圧圫圱圲圴圵圶圷圸圼圽圿坁坃坄坅坆坈坉坋坒坓坔坕坖坘坙坢坣坥坧坬坮坰坱坲坴坵坸坹"),
    (0x887a, "坺坽坾坿垀"), (0x8880, "垁垇垈垉垊垍垎垏垐垑垔垕垖垗垘垙垚垜垝垞垟垥垨垪垬垯垰垱垳垵垶垷"),
    (0x88a9, "埄埅埆埇埈埉埊埌埍埐埑埓埖埗埛埜埞埡埢埣"), (0x88c5, "埮埰埱埲埳埵埶執埻埼埾埿堁堃堄堅堈堉堊堌堎堏堐堒堓堔堖堗堘堚堛堜堝堟堢堣堥堦堧堨堩堫堬堭堮堯報堲"),
    (0x88f5, "堳場"), (0x8940, "堾堿塀塁塂塃塅塆塇塈塉塊塋塎塏塐塒塓塕塖塗塙塚塛塜塝塟塠塡塢塣塤塦塧塨塩塪"),
    (0x8976, "塿墂墄墆墇墈墊墋墌"), (0x8980, "墍墎墏墐墑墔墕墖増墘墛墜墝"), (0x89a7, "墽墾墿壀壂壃壄"), (0x89b9, "壒壓壔"),
    (0x89ca, "壥壦壧壨壩壪壭壯壱売壴壵壷壸"), (0x89e0, "夃夅夆夈変夊夋夌夎夐夑夒夓夗夘夛夝夞夠夡夢夣夦夨夬夰夲夳夵夶夻"),
    (0x8a40, "夽夾夿奀奃奅奆奊奌奍奐奒奓奙奛奜奝奞奟奡奣奤"),
    (0x8a63, "奵奷奺奻奼奾奿妀妅妉妋妌妎妏妐妑妔妕妘妚妛妜妝妟妠妡妢妦"),
    (0x8a80, "妧妬妭妰妱妳妴妵妶妷妸妺妼妽妿姀姁姂姃姄姅姇姈姉姌姍姎姏姕姖姙姛姞姟姠姡姢姤姦姧姩姪姫"),
    (0x8ab7, "姺姼姽姾娀娂娊娋娍娎娏娐娒娔娕娖娗娙娚娛娝娞娡娢娤娦娧娨娪娫娬娭娮娯娰娳娵娷娸娹娺娻娽娾娿婁婂婃"),
    (0x8ae7, "婄婅婇婈"), (0x8af5, "婖婗婘婙婛婜婝婞婟婠"), (0x8b40, "婡婣婤婥婦婨婩"), (0x8b50, "婸婹婻婼婽婾"),
    (0x8b68, "媓媔媕媖媗媘媙"), (0x8b7d, "媫媬"),
    (0x8b80, "媭媮媯媰媱媴媶媷媹媺媻媼媽媿嫀嫃嫄嫅嫆嫇嫈嫊嫋嫍嫎嫏嫐嫑嫓嫕嫗嫙嫚嫛嫝嫞嫟嫢嫤嫥嫧嫨嫪嫬嫭嫮嫯嫰"),
    (0x8bed, "嬳嬵嬶"), (0x8bf8, "孁孂孃孄孅孆孇"),
    (0x8c48, "孒孖孞孠孡孧孨孫孭孮孯孲孴孶孷學孹孻孼孾孿宂宆宊宍宎宐宑宒宔宖実宧宨宩宬宭宮宯宱宲宷宺宻宼寀寁寃"),
    (0x8c78, "寈寉寊寋寍寎寏"), (0x8c80, "寑"),
    (0x8c8a, "寠寢寣實寧審寪寫寬寭寯寱寲寳寴寵寶寷寽対尀専尃尅將專尋尌對導尐尒尓尗尙尛尞尟尠尡尣尦尨尩尪尫尭尮"),
    (0x8cba, "尯尰尲尳尵尶尷屃屄屆屇屌屍屒屓屔屖屗屘屚屛屜屝屟屢層屧屨屩屪屫屬屭屰屲屳屴屵屶屷屸屻屼屽屾岀岃岄"),
    (0x8cea, "岅岆岇岉岊岋岎岏岒岓岕岝岞岟岠岡岤岥岦岧岨"),
    (0x8d40, "岪岮岯岰岲岴岶岹岺岻岼岾峀峂峃峅峆峇峈峉峊峌峍峎峏峐峑峓峔峕峖峗峘峚峛峜峝峞峟峠峢峣峧峩峫峬峮峯"),
    (0x8d7a, "峼峽峾峿崀"), (0x8d80, "崁崄崅崈崉崊崋崌崍崏崐崑崒崓崕崗崘崙崚崜崝崟崠崡崢崣崥崨崪崫崬崯崰崱崲崳"),
    (0x8db4, "嵈嵉"), (0x8dc1, "嵙嵚嵜"), (0x8dcf, "嵪嵭嵮嵰嵱嵲嵳"), (0x8df9, "嶚嶛嶜嶞嶟嶠"), (0x8e63, "巆巇巈巉巊巋巌"),
    (0x8e77, "巜巟巠巣巤巪巬巭"), (0x8e80, "巰巵巶巸巹巺巻巼巿帀帄帇帉帊帋帍帎帒帓帗"),
    (0x8e9c, "帨帩帪師帬帯帰帲帳帴帵帶帹帺帾帿幀幁幃幆幇幈幉幊幋幍幎幏幐幑幒幓幖幗幘幙幚幜幝幟幠"),
    (0x8ed4, "幵幷幹幾庁庂広庅庈庉庌庍庎庒庘庛庝庡庢庣庤庨庩庪庫庬庮庯庰庱庲庴庺庻庼庽庿廀廁廂廃廄廅"),
    (0x8f40, "廆廇廈廋廌廍廎廏廐廔廕廗廘廙廚"), (0x8f5b, "廩"), (0x8f65, "廵廸廹廻廼廽弅弆弇弉弌弍弎弐弒弔弖弙弚弜弝弞弡弢弣弤"),
    (0x8f80, "弨弫弬弮弰弲弳弴張弶強弸弻弽弾弿"), (0x8f9f, "彑彔彙彚彛彜彞彟彠彣彥彧彨彫彮彯彲彴彵彶彸彺彽彾彿徃徆徍徎徏徑従徔徖徚徛徝從徟徠徢徣徤徥徦徧復徫"),
    (0x8fcf, "徬徯徰徱徲徳徴徶徸徹徺徻徾徿忀忁忂忇忈忊忋忎忓忔忕忚忛応忞忟忢忣忥忦忨忩忬忯忰忲忳忴忶忷忹忺忼怇"),
    (0x9040, "怈怉怋怌怐怑怓怗怘怚怞怟怢怣怤怬怭怮怰怱怲怳怴怶怷怸怹怺怽怾恀恄恅恆恇恈恉恊恌恎恏恑恓恔恖恗恘恛"),
    (0x9070, "恜恞恟恠恡恥恦恮恱恲恴恵恷恾悀"), (0x9080, "悁悂悅悆悇悈悊悋悎悏悐悑悓悕悗悘悙悜悞悡悢悤悥悧悩悪悮悰悳悵悶悷悹悺"),
    (0x90aa, "惇惈惉惌惍惎惏惐惒惓惔惖惗惙惛惞惡惢惣惤惥惪惱惲惵惷惸惻惼惽惾惿愂愃愄愅愇愊愋愌愐愑愒愓愔愖愗愘"),
    (0x90da, "愙愛愜愝愞愡愢愥愨愩愪"), (0x90f8, "慀慁慂慃慄慅慆"), (0x9140, "慇慉態慍慏慐慒慓慔慖慗慘慙慚慛慜慞慟慠慡慣慤慥慦慩慪慫慬慭慮慯慱慲慳慴慶"),
    (0x9177, "憌憍憏憐憑憒憓憕"), (0x9180, "憖憗憘憙憚憛憜"), (0x9190, "憪憫"), (0x919c, "憸憹憺憻憼憽憿懀懁懃懄懅懆懇應懌懍懎懏懐懓"),
    (0x91d9, "戀戁戂戃戄戅戇戉戓戔戙戜戝戞戠戣戦戧戨戩戫戭戯戰戱戲戵戶戸戹戺戻戼扂扄扅扆扊"),
    (0x9240, "扏扐払扖扗扙扚扜扝扞扟扠扡扢扤扥扨扱扲扴扵扷扸扺扻扽抁抂抃抅抆抇抈抋抌抍抎抏抐抔抙抜抝択抣抦抧抩"),
    (0x9270, "抪抭抮抯抰抲抳抴抶抷抸抺抾拀拁"), (0x9280, "拃拋拏拑拕拝拞拠拡拤拪拫拰拲拵拸拹拺拻挀挃挄挅挆挊挋挌挍挏挐挒挓挔挕挗挘挙挜挦挧挩挬挭挮挰挱挳挴"),
    (0x92b0, "挵挶挷挸挻挼挾挿捀捁捄捇捈捊捑捒捓捔"), (0x92ca, "捠捤捥捦捨捪捫捬捯捰捲捳捴捵捸捹捼捽捾捿掁掃掄掅掆掋掍掑掓掔掕掗掙掚掛掜掝掞掟採掤掦掫掯掱掲掵掶"),
    (0x92fa, "掹掻掽掿揀"), (0x9340, "揁揂揃揅揇揈揊揋揌揑揓揔揕揗揘揙揚換揜揝揟揢揤揥揦揧揨揫揬揮揯揰揱揳揵揷揹揺揻揼揾搃搄搆搇搈搉搊"),
    (0x9370, "損搎搑搒搕搖搗搘搙搚搝搟搢搣搤"), (0x9380, "搥搧搨搩搫搮搯搰搱搲搳搵搶搷搸搹搻搼搾摀摂摃摉摋摌摍摎摏摐摑摓摕摖摗摙摚摛摜摝"),
    (0x93af, "摨摪摫摬"), (0x93bd, "摻摼摽摾摿撀撁撃撆"),
    (0x93cf, "撓撔撗撘撚撛撜撝撟撠撡撢撣撥撦撧撨撪撫撯撱撲撳撴撶撹撻撽撾撿擁擃擄擆擇擈擉擊擋擌擏擑擓擔擕擖擙據"),
    (0x9440, "擛擜擝擟擠擡擣擥"), (0x9471, "攓攔攕攖攗"),
    (0x9480, "攢攣攤攦攧攨攩攪攬攭攰攱攲攳攷攺攼攽敀敁敂敃敄敆敇敊敋敍敎敐敒敓敔敗敘敚敜敟敠敡敤敥敧敨敩敪敭敮"),
    (0x94b0, "敯敱敳敵敶"), (0x94c4, "斈斉斊斍斎斏斒斔斕斖斘斚斝斞斠斢斣斦斨斪斬斮"),
    (0x94e2, "斺斻斾斿旀旂旇旈旉旊旍旐旑旓旔旕"), (0x94fa, "旡旣旤旪旫"),
    (0x9540, "旲旳旴旵旸旹旻旼旽旾旿昁昄昅昇昈昉昋昍昐昑昒昖昗昘昚昛昜昞昡昢昣昤昦昩昪昫昬昮昰昲昳昷昸昹昺昻昽"),
    (0x9570, "昿晀時晄晅晆晇晈晉晊晍晎晐晑晘"), (0x9580, "晙晛晜晝晞晠晢晣晥晧晩晪晫晬晭晱晲晳晵晸晹晻晼晽晿暀暁暃暅暆暈暉暊暋暍暎暏暐暒暓暔暕暘暙暚暛暜"),
    (0x95b8, "暩暪暫暬暭暯暰暱暲暳暵暶暷暸暺暻暼暽"), (0x95e4, "曚"), (0x95ed, "曧曨曪曫曬曭曮曯曱曵曶書曺曻曽朁朂會"),
    (0x9640, "朄朅朆朇朌朎朏朑朒朓朖朘朙朚朜朞朠朡朢朣朤朥朧朩朮朰朲朳朶朷朸朹朻朼朾朿杁杄杅杇杊杋杍杒杔杕杗杘"),
    (0x9670, "杙杚杛杝杢杣杤杦杧杫杬杮東杴杶"), (0x9680, "杸杹杺杻杽枀枂枃枅枆枈枊枌枍枎枏枑枒枓枔枖枙枛枟枠枡枤枦枩枬枮枱枲枴"),
    (0x96aa, "柂"), (0x96b5, "柕柖柗柛柟柡柣柤柦柧柨柪柫柭柮柲"),
    (0x96cd, "柾栁栂栃栄栆栍栐栒栔栕栘栙栚栛栜栞栟栠栢栣栤栥栦栧栨栫栬栭栮栯栰栱栴栵栶栺栻栿桇桋桍桏桒桖桗桘桙"),
    (0x96fd, "桚桛"), (0x9740, "桜桝桞桟桪"), (0x974d, "桵"), (0x9757, "梂梄"), (0x9761, "梐梑梒梔梕梖"),
    (0x9771, "梣梤梥梩梪梫梬梮梱梲梴梶梷梸"), (0x9780, "梹梺梻梼梽梾梿棁棃棄棅棆棇棈棊棌棎棏棐棑棓棔棖棗棙棛棜棝棞棟棡棢"),
    (0x97aa, "棯棲棳棴棶棷棸棻棽棾棿椀椂椃椄椆椇椈椉椊椌椏椑"),
    (0x97cd, "椡椢椣"), (0x97d8, "椮椯椱椲椳椵椶椷椸椺椻椼椾楀楁"), (0x97f8, "楕楖楘楙楛楜楟"),
    (0x9840, "楡楢楤楥楧楨楩楪楬業楯楰楲楳楴極楶楺楻楽楾楿榁榃榅榊榋榌榎榏榐榑榒榓榖榗榙榚"),
    (0x9870, "榩榪榬榮榯榰榲榳榵榶榸榹榺榼榽"), (0x9880, "榾榿槀"), (0x988b, "構槍槏槑槒槓槕槖槗様槙槚槜槝槞"), (0x98a6, "槮槯槰槱"),
    (0x98b4, "槾"), (0x98cb, "標樚樛樜樝樞樠樢樣樤樥樦樧権樫樬樭樮樰樲樳樴樶樷樸樹樺樻樼樿橀橁橂橃橅橆"),
    (0x98f7, "橑橒橓橔橕橖橗橚"), (0x9940, "橜橝橞機橠橢橣橤"), (0x9953, "橲橳橴橵橶橷橸橺橻橽橾橿檁檂檃"), (0x996b, "檏檒檓檔檕檖"),
    (0x9979, "檡檢檣檤檥檦"), (0x9980, "檧檨檪"), (0x99f6, "欥欦欨欩欪欫欬欭欮"), (0x9a40, "欯欰欱欳欴欵欶欸欻欼欽欿歀歁歂歄歅歈歊歋"),
    (0x9a68, "歨歩"), (0x9a78, "歺歽歾歿殀殅殈"), (0x9a80, "殌殎殏殐殑殔殕殗殘殙殜殝殞殟殠"),
    (0x9a9f, "殶殸殹殺殻殼殽殾毀毃毄毆毇毈毉毊毌毎毐毑毘毚毜毝毞毟毠"),
    (0x9ac2, "毬毭毮毰毱毲毴毶毷毸毺毻毼毾毿氀氁氂氃氄氈氉氊氋氌氎氒気氜氝氞氠氣氥氫氬氭氱氳氶氷氹氺氻氼氾氿汃"),
    (0x9af2, "汄汅汈汋汌汍汎汏汑汒汓汖汘"), (0x9b40, "汙汚汢汣汥汦汧汫汬汭汮汯汱汳汵汷汸決汻汼汿沀沄沇沊沋沍沎沑沒沕沖沗沘沚沜沝沞沠沢沨沬沯沰沴沵沶沷"),
    (0x9b70, "沺泀況泂泃泆泇泈泋泍泎泏泑泒泘"), (0x9b80, "泙泚泜泝泟泤泦泧泩泬泭泲泴泹泿洀洂洃洅洆洈洉洊洍洏洐洑洓洔洕洖洘洜洝洟洠洡洢洣洤洦洨洩洬洭洯洰洴"),
    (0x9bb0, "洶洷洸洺洿浀浂浄浉浌浐浕浖浗浘浛浝浟浡浢浤浥浧浨浫浬浭浰浱浲浳浵浶浹浺浻浽浾浿涀涁涃涄涆涇涊涋涍"),
    (0x9be0, "涏涐涒涖涗涘涙涚涜涢涥涬涭涰涱涳涴涶涷涹涺涻涼涽涾淁淂淃淈淉淊"),
    (0x9c40, "淍淎淏淐淒淓淔淕淗淚淛淜淟淢淣淥淧淨淩淪淭淯淰淲淴淵淶淸淺"),
    (0x9c65, "渆渇済渉渋渏渒渓渕渘渙減渜渞渟渢渦渧渨渪測渮渰渱渳渵"),
    (0x9c80, "渶渷渹"), (0x9c93, "湏湐湑湒湕湗湙湚湜湝湞"), (0x9ca9, "湬湭"),
    (0x9cba, "満溁溂溄溇溈溊溋溌溍溎溑溒溓溔溕準溗溙溚溛溝溞溠溡溣溤溦溨溩溫溬溭溮溰溳溵溸溹溼溾溿滀滃滄滅滆滈"),
    (0x9cea, "滉滊滌滍滎滐滒滖滘滙滛滜滝滣滧滪滫滬滭滮滯"),
    (0x9d40, "滰滱滲滳滵滶滷滸"), (0x9d50, "漃漄漅漇漈漊漋漌漍漎漐漑漒"), (0x9d67, "漡漢漣漥漦漧漨漬漮漰漲漴漵漷漸漹漺漻漼漽漿潀潁潂"),
    (0x9d80, "潃潄潅潈潉潊潌"), (0x9d91, "潙潚潛潝潟潠潡潣潤潥潧潨潩潪潫潬潯潰潱潳潵潶潷潹潻潽潾潿澀澁澂澃澅澆澇澊澋"),
    (0x9dc3, "澝澞澟澠澢澣澤澥澦"), (0x9dd7, "澴澵澷澸澺澻澼澽澾澿濁濃濄濅濆濇濈濊濋濌濍濎濏濐"),
    (0x9dfa, "濟濢濣濤濥"), (0x9e71, "瀜瀝瀞瀟瀠瀡瀢瀤瀥瀦瀧瀨瀩瀪"), (0x9e8a, "瀶瀷瀸"), (0x9e9f, "灍灎"),
    (0x9ebb, "灮灱灲灳灴灷灹灺灻災炁炂炃炄炆炇炈炋炌炍炏炐炑炓炗炘炚炛"),
    (0x9ee4, "炰炲炴炵炶為炾炿烄烅烆烇烉"), (0x9efe, "烚"), (0x9f40, "烜烝烞烠烡烢烣烥烪烮烰烱烲烳烴烵烶烸烺烻烼"),
    (0x9f60, "焋焌焍焎焏焑焒焔焗"), (0x9f7c, "焲焳焴"), (0x9f80, "焵"), (0x9f8f, "煆煇煈煉煋煍"),
    (0x9fa2, "煝煟煠煡煢煣煥煩煪煫煬煭煯煰煱煴煵煶煷煹煻煼煾煿熀熁熂熃熅熆熇熈熉熋熌熍熎熐熑熒熓熕熖熗熚熛熜熝"),
    (0x9fd2, "熞熡熢熣熤熥熦熧熩熪熫熭熮熯熰熱熲熴熶熷熸"),
    (0x9ffa, "燏燐燑燒燓"), (0xa04a, "燡燢燣燤燦燨燩燪燫燬燭"), (0xa080, "爛爜"),
    (0xa08c, "爩爫爭爮爯爲爳爴爺爼爾牀牁牂牃牄牅牆牉牊牋牎牏牐牑牓牔牕牗牘牚牜牞牠牣牤牥牨牪牫牬牭牰牱牳牴牶牷"),
    (0xa0bc, "牸牻牼牽犂犃犅犆犇犈犉犌犎犐犑"), (0xa0e3, "犮犱犲犳犵犺犻犼犽犾犿狀狅狆狇狉狊狋狌狏狑狓狔狕狖狘狚狛"),
    (0xa1a4, "·"), (0xa1aa, "—"), (0xa6e0, "︵︶︹︺︿﹀︽︾﹁﹂﹃﹄"), (0xa6ee, "︻︼︷︸︱"), (0xa6f4, "︳︴"),
    (0xa840, "ˊˋ˙–―‥‵℅℉↖↗↘↙∕∟∣≒≦≧⊿"), (0xa878, "▁▂▃▄▅▆▇"), (0xa888, "▓▔▕▼▽◢◣◤◥☉⊕〒〝〞"),
    (0xa8bb, "ɑ"), (0xa8bd, "ńň"), (0xa8c0, "ɡ"), (0xa949, "㊣㎎㎏㎜㎝㎞㎡㏄㏎㏑㏒㏕︰￢￤"), (0xa959, "℡㈱"),
    (0xa95c, "‐"), (0xa960, "ー゛゜ヽヾ〆ゝゞ"), (0xa972, "﹔﹕﹖﹗"), (0xa980, "﹢﹣﹤﹥﹦﹨﹩﹪﹫"), (0xa996, "〇"),
    (0xaa40, "狜狝狟狢狣狤狥狦狧狪狫狵狶狹狽狾狿猀猂猄猅猆猇猈猉猋猌猍猏猐猑猒猔猘猙猚猟猠猣猤猦猧猨猭猯猰猲猳"),
    (0xaa70, "猵猶猺猻猼猽"), (0xaa80, "獉獊獋獌獎獏獑獓獔獕獖"), (0xaa9e, "獮獰獱"),
    (0xab4c, "獿玀玁玂玃玅玆玈玊玌玍玏玐玒玓玔玕玗玘玙玚玜玝玞玠玡玣玤玥玦玧玨玪玬玭玱玴玵玶玸玹玼玽玾玿珁珃珄"),
    (0xab7c, "珅珆珇"), (0xab80, "珋珌珎珒珓珔珕珖珗珘珚珛珜珝珟珡珢珣珤珦珨珪珫珬珮珯珰珱珳珴珵珶珷"),
    (0xac4b, "琄琇琈琋琌琍琎"), (0xac5b, "琜琝琞琟琠琡琣琤琧琩琫琭琯琱琲琷琸琹琺琻琽琾琿瑀"),
    (0xac80, "瑎瑏瑐瑑瑒瑓瑔瑖瑘瑝"), (0xac97, "瑮瑯瑱瑲瑳瑴瑵瑸瑹瑺"), (0xad40, "瑻瑼瑽瑿璂璄璅璆璈璉璊璌璍璏"), (0xad59, "璝"),
    (0xad93, "瓝瓟瓡瓥瓧瓨瓩瓪瓫瓬瓭瓰瓱瓲"), (0xae40, "瓳瓵瓸瓹瓺瓻瓼瓽瓾甀甁甂甃"),
    (0xae55, "甎甐甒甔甕甖甗甛甝甞甠甡產産甤甦甧甪甮甴甶甹甼甽甿畁畂畃畄畆畇畉畊畍畐畑畒畓畕畖畗畘"),
    (0xae88, "畧畨畩畫畬畭畮畯異畱畳畵當畷畺畻畼畽畾疀疁疂疄疅疇"),
    (0xaf40, "疈疉疊疌疍疎疐疓疕疘疛疜疞疢疦疧疨疩疪疭疶疷疺疻疿痀痁痆痋痌痎痏痐痑痓痗痙痚痜痝痟痠痡痥痩痬痭痮"),
    (0xaf70, "痯痲痳痵痶痷痸痺痻痽痾瘂瘄瘆瘇"), (0xaf80, "瘈瘉瘋瘍瘎瘏瘑瘒瘓瘔瘖瘚瘜瘝瘞瘡瘣瘧瘨瘬瘮瘯瘱瘲瘶瘷瘹瘺瘻瘽癁療癄"),
    (0xb040, "癅癆癇癈癉癊癋癎癏癐癑癒癓癕癗癘癙癚癛癝癟癠癡癢癤癥癦癧癨癩癪癬癭癮"),
    (0xb06a, "癹発發癿皀皁皃皅皉皊皌皍皏皐皒皔皕皗皘皚皛"),
    (0xb091, "皯皰皳"), (0xb09e, "盀盁盃"), (0xb140, "盄盇盉盋盌盓盕盙盚盜盝盞盠盡盢監盤"), (0xb159, "盰盳盵盶盷盺盻盽盿眀眂眃眅眆眊県"),
    (0xb174, "眛眜眝眞眡眣眤眥眧眪眫"), (0xb180, "眬眮眰眱眲眳眴眹眻眽眾眿睂睄睅睆"), (0xb1a0, "睜"), (0xb240, "睝睞睟睠睤睧睩睪"),
    (0xb254, "睺睻睼瞁瞂瞃瞆瞇瞈瞉瞊瞋瞏瞐"), (0xb26e, "瞡瞣瞤瞦瞨瞫瞭瞮瞯瞱瞲瞴瞶瞷瞸瞹瞺"), (0xb280, "瞼瞾"),
    (0xb298, "矘矙矚矝矞矟矠矡矤"), (0xb340, "矦矨矪矯矰矱矲矴矵矷矹矺矻矼砃砄砅砆砇砈砊砋砎砏砐砓砕砙砛砞砠砡砢砤砨砪砫砮砯砱砲砳砵砶砽砿硁硂"),
    (0xb370, "硃硄硆硈硉硊硋硍硏硑硓硔硘硙硚"), (0xb380, "硛硜"), (0xb396, "硸硹硺硻硽硾硿碀碁碂碃"),
    (0xb440, "碄碅碆碈碊碋碏碐碒碔碕碖碙碝碞碠碢碤碦"), (0xb45b, "碵碶碷碸確碻碼碽碿磀磂磃磄磆磇磈磌磍磎磏磑磒磓磖磗磘"),
    (0xb480, "磤磥磦磧磩磪磫磭磮磯磰磱磳磵磶磸磹磻磼磽磾磿礀礂礃礄礆礇礈礉礊礋礌"),
    (0xb540, "礍礎礏礐礑礒"), (0xb550, "礟礠礡礢礣"), (0xb564, "礵礶礷礸礹礽礿祂祃祄祅祇"), (0xb579, "祔祕祘祙祡祣"),
    (0xb580, "祤祦祩祪祫祬祮祰祱祲祳祴祵祶祹祻祼祽祾祿禂禃禆禇禈禉禋禌禍禎禐禑禒"),
    (0xb640, "禓禔禕禖禗禘禙"), (0xb65e, "禴禵禶禷禸禼禿秂秄秅秇秈秊秌秎秏秐秓秔秖秗秙秚秛秜秝秞秠秡秢秥秨秪"),
    (0xb680, "秬秮秱秲秳秴秵秶秷秹秺秼秾秿稁稄稅稇稈稉稊稌稏稐稑稒稓稕稖稘稙稛稜"),
    (0xb740, "稝稟稡稢"), (0xb753, "稴稵稶稸稺稾穀穁穂穃穄穅"), (0xb769, "穒穓穔穕穖"),
    (0xb780, "穩穪穫穬穭穮穯穱穲穳穵穻穼穽穾窂窅窇窉窊窋窌窎窏窐窓窔窙窚窛窞窡窢"),
    (0xb840, "窣窤窧窩窪窫窮窯窰窱窲"), (0xb86b, "竗竘竚竛竜竝竡竢竤竧竨竩竪竫竬竮竰竱竲竳"),
    (0xb880, "竴竵競竷竸竻竼竾笀笁笂笅笇笉笌笍笎笐笒笓笖笗笘笚笜笝笟笡笢笣笧笩笭"),
    (0xb940, "笯笰笲笴笵笶笷笹笻笽笿筀筁筂筃筄筆筈筊筍筎筓筕筗筙筜筞筟筡"),
    (0xb968, "筯筰筳筴筶筸筺筼筽筿箁箂箃箄箆箇箈箉箊箋箌箎箏"),
    (0xb980, "箑箒箓箖箘箙箚箛箞箟箠箣箤箥箮箯箰箲箳箵箶箷"),
    (0xb99e, "篂篃範"), (0xba40, "篅篈築篊篋篍篎篏篐篒篔篕篖篗篘篛篜篞篟篠篢篣篤篧篨篩篫篬篭篯篰篲篳篴篵篶篸篹篺篻篽"),
    (0xba71, "簈簉簊簍簎簐簑簒簓簔簕簗簘簙"), (0xba80, "簚簛簜簝簞簠簡簢簣簤簥簨簩"), (0xba9a, "簹簺簻簼簽簾籂"), (0xbb6f, "籵籶籷籸籹籺"),
    (0xbb80, "粈粊粋粌粍粎粏粐粓粔粖粙粚粛粠粡粣粦粧粨粩粫粬粭粯粰粴粵粶粷粸粺粻"),
    (0xbc40, "粿糀糂糃糄糆糉糋糎糏糐糑糒糓糔糘糚糛糝糞糡糢糣糤糥糦糧糩糪糫糬糭糮"),
    (0xbc69, "糹糺"), (0xbc79, "紋紌納紎紏紐"), (0xbc8f, "紡紣紤紥紦紨紩紪紬紭紮細紱紲紳紴紵紶"), (0xbe4d, "綧綨綩綪綫綬維"),
    (0xbf80, "縺縼總績縿繀繂繃繄繅繆"), (0xc07c, "纜纝纞"), (0xc080, "纮纴纻纼绖绤绬绹缊缐缞缷缹缻缼缽缾缿罀罁罃"),
    (0xc09f, "罒罓"), (0xc140, "罖罙罛罜罝罞罠罣罤罥罦罧罫罬罭罯罰罳罵罶罷罸罺罻罼罽罿羀"),
    (0xc164, "羋羍羏羐羑羒羓羕羖羗羘羙羛羜羠羢羣羥羦羨義羪羫羬羭羮羱"),
    (0xc180, "羳羴羵羶羷羺羻羾翀翂翃翄翆翇翈翉翋翍翏翐翑習翓翖翗翙翚翛翜翝翞翢翣"),
    (0xc240, "翤翧翨翪翫翬翭翯翲翴翵翶翷翸翹翺翽翾翿耂耇耈耉耊耎耏耑耓耚耛耝耞耟耡耣耤耫耬耭耮耯耰耲耴耹耺耼耾"),
    (0xc270, "聀聁聄聅聇聈聉聎聏聐聑聓聕聖聗"), (0xc280, "聙"), (0xc28f, "聫聬聭聮聯聰"),
    (0xc340, "聾肁肂肅肈肊肍肎肏肐肑肒肔肕肗肙肞肣肦肧肨肬肰肳肵肶肸肹肻胅胇胈胉胊胋胏胐胑胒胓胔胕胘胟胠胢胣胦"),
    (0xc370, "胮胵胷胹胻胾胿脀脁脃脄脅脇脈脋"), (0xc380, "脌脕脗脙脛脜脝"), (0xc394, "脭脮脰脳脴脵脷脹脺脻脼脽脿"),
    (0xc440, "腀腁腂腃腄腅腇腉腍腎腏腒腖腗腘腛腜腝腞腟腡腢腣腤腦腨腪腫腬腯腲腳腵腶腷腸膁膃膄膅膆膇膉膋膌膍膎膐"),
    (0xc470, "膒膓膔膕膖膗膙膚膞膟膠膡膢膤膥"), (0xc480, "膧膩"), (0xc48a, "膴膵膶膷膸膹膼膽膾膿臄臅臇臈臉臋臍臎臏臐臑臒臓"),
    (0xc54f, "臤臥臦臨臩臫臮臯臰臱臲臵臶臷臸臹臺臽臿舃與興舉舊舋舎舏舑舓舕舖舗舘舙舚舝舠舤舥舦舧舩舮舲舺舼舽舿"),
    (0xc580, "艀艁艂艃艅艆艈艊艌艍艎"), (0xc593, "艙艛艜艝艞"), (0xc5a0, "艩"),
    (0xc640, "艪艫艬艭艱艵艶艷艸艻艼芀芁芃芅芆芇芉芌芐芓芔芕芖芚芛芞芠芢芣芧芲芵芶芺芻芼芿苀苂苃苅苆苉苐苖苙苚"),
    (0xc670, "苝苢苧苨苩苪苬苭苮苰苲苳苵苶苸"), (0xc680, "苺苼苽苾苿茀茊茋茍茐茒茓茖茘茙"), (0xc699, "茩茪茮茰茲茷茻茽"),
    (0xc740, "茾茿荁荂荄荅荈荊荋荌荍荎荓荕荖荗荘荙荝荢荰荱荲荳荴荵荶荹荺荾荿莀莁莂莃莄莇莈莊莋莌莍莏莐莑莔莕莖"),
    (0xc770, "莗莙莚莝莟莡莢莣莤莥莦莧莬莭莮"), (0xc780, "莯莵莻莾莿菂菃菄菆菈菉菋菍菎菐菑菒菓菕菗菙菚菛菞菢菣菤菦菧菨菫菬菭"),
    (0xc840, "菮華菳菴菵菶菷菺菻菼菾菿萀萂萅萇萈萉萊萐萒萓萔萕萖萗萙萚萛萞萟萠萡萢萣"),
    (0xc86b, "萲萳萴萵萶萷萹萺萻"), (0xc87c, "葇葈葉"), (0xc880, "葊葋葌葍葎葏葐葒葓葔葕葖葘葝葞葟葠葢葤葥葦葧葨葪葮葯葰葲葴葷葹葻葼"),
    (0xc940, "葽葾葿蒀蒁蒃蒄蒅蒆蒊蒍"), (0xc953, "蒘蒚蒛蒝蒞蒟蒠"), (0xc967, "蒰蒱蒳蒵蒶蒷蒻蒼蒾蓀蓂蓃蓅蓆蓇蓈蓋蓌蓎蓏蓒蓔蓕蓗"),
    (0xc980, "蓘蓙蓚蓛蓜蓞蓡蓢蓤蓧蓨蓩蓪蓫蓭蓮蓯"), (0xc99c, "蓽蓾蔀蔁蔂"), (0xca49, "蔍蔎蔏蔐蔒蔔蔕蔖蔘蔙蔛蔜蔝蔞蔠"),
    (0xca6b, "蔾蔿蕀蕁蕂蕄蕅蕆蕇"), (0xca80, "蕗蕘蕚蕛蕜蕝蕟蕠蕡蕢蕣蕥蕦蕧"), (0xca97, "蕳蕵蕶蕷蕸蕼蕽蕿薀薁"),
    (0xcb40, "薂薃薆薈薉薊薋薌薍薎"), (0xcb55, "薝薞薟薠薡薢薣薥薦薧薩薫薬薭薱薲薳薴薵薶薸薺薻薼薽薾薿藀藂藃藄藅藆藇藈藊藋藌藍藎藑藒"),
    (0xcb80, "藔藖藗藘藙藚藛藝藞藟藠藡藢藣藥藦藧藨"), (0xcc40, "藹藺藼藽藾蘀蘁蘂蘃蘄"), (0xcc55, "蘒蘓蘔蘕"), (0xcc69, "蘨"),
    (0xcc78, "蘹蘺蘻蘽蘾蘿虀"), (0xcc8c, "虒虓處虖虗虘虙虛虜虝號虠虡"),
    (0xcd40, "虭虯虰虲虳虴虵虶虷虸蚃蚄蚅蚆蚇蚈蚉蚎蚏蚐蚑蚒蚔蚖蚗蚘蚙蚚蚛蚞蚟蚠蚡蚢蚥蚦蚫蚭蚮蚲蚳蚷蚸蚹蚻蚼蚽蚾"),
    (0xcd70, "蚿蛁蛂蛃蛅蛈蛌蛍蛒蛓蛕蛖蛗蛚蛜"), (0xcd80, "蛝蛠蛡蛢蛣蛥蛦蛧蛨蛪蛫蛬蛯蛵蛶蛷蛺蛻蛼蛽蛿蜁蜄蜅蜆蜋蜌蜎蜏蜐蜑蜔蜖"),
    (0xce40, "蜙蜛蜝蜟蜠蜤蜦蜧蜨蜪蜫蜬蜭蜯蜰蜲蜳蜵蜶蜸蜹蜺蜼蜽蝀蝁蝂蝃蝄蝅蝆蝊蝋蝍蝏蝐蝑蝒蝔蝕蝖蝘蝚蝛蝜蝝蝞蝟"),
    (0xce70, "蝡蝢"), (0xce7a, "蝯蝱蝲蝳蝵"), (0xce80, "蝷蝸蝹蝺蝿螀螁螄螆螇螉螊螌螎螏螐螑螒螔螕螖螘螙螚螛螜螝螞螠螡螢螣螤"),
    (0xcf40, "螥螦螧螩螪螮螰螱螲螴螶螷螸螹螻螼螾螿蟁蟂蟃蟄蟅蟇蟈蟉蟌蟍蟎蟏蟐蟔蟕蟖蟗蟘蟙蟚蟜蟝蟞蟟蟡蟢蟣蟤蟦蟧"),
    (0xcf70, "蟨蟩蟫蟬蟭"), (0xcf80, "蟺蟻蟼蟽蟿蠀蠁蠂蠄蠅蠆蠇蠈蠉"), (0xcf96, "蠔蠗蠘蠙蠚蠜蠝蠞蠟蠠蠣"),
    (0xd04e, "蠳蠴蠵蠶蠷蠸蠺蠻蠽蠾蠿衁衂衃衆衇衈衉衊衋衎衏衐衑衒術衕衖衘衚衛衜衝衞衟衠衦衧衪衭衯衱衳衴衵衶衸衹"),
    (0xd07e, "衺"), (0xd080, "衻衼袀袃袆袇袉袊袌袎袏袐袑袓袔袕袗袘袙袚袛袝袞袟袠袡袣袥袦袧袨袩袪"),
    (0xd140, "袬袮袯袰袲袳袴袵袶袸袹袺袻袽袾袿裀裃裄裇裈裊裋裌裍裏裐裑裓裖裗裚裛補裝裞裠裡裦裧裩裪裫裬裭裮裯裲"),
    (0xd170, "裵裶裷裺裻製裿褀褁褃褄褅褆複褈"), (0xd180, "褉褋褌褍褎褏褑褔褕褖褗褘褜褝褞褟褠褢褣褤褦褧褨褩褬褭褮褯褱褲褳褵褷"),
    (0xd249, "襂襃"), (0xd264, "襠襡襢襣襤襥"), (0xd27e, "襼"), (0xd280, "襽襾覀覂覄覅"),
    (0xd35f, "觃觍觓觔觕觗觘觙觛觝觟觠觡觢觤觧觨觩觪觬觭觮觰觱觲觴觵觶觷觸觹觺"),
    (0xd380, "觻觼觽觾觿訁訂訃訄訅訆"), (0xd49a, "詺詻詼詽詾詿誀"), (0xd680, "謤謥"), (0xd760, "譧譨譩譪譫"),
    (0xd799, "讬讱讻诇诐诪谉谞"), (0xd849, "豂豃豄豅豈豊豋"), (0xd858, "豖豗豘豙豛豜豝豞豟豠豣豤豥豦豧豨豩豬豭豮豯豰豱豲豴豵豶豷豻豼豽豾豿貀貁貃貄貆貇"),
    (0xd880, "貈貋貍貎貏貐貑貒貓貕貖貗"), (0xda4f, "贠赑赒赗赟赥赨赩赪赬赮赯赱赲"), (0xda66, "趂趃趆趇趈趉趌趍趎趏趐趒趓"), (0xda7d, "趠趡"),
    (0xda80, "趢"), (0xda8e, "趲趶趷趹趻趽跀跁跂跅跇跈跉跊跍跐跒跓跔"),
    (0xdb40, "跕跘跙跜跠跡跢跥跦跧跩跭跮跰跱跲跴跶跼跾跿踀踁踂踃踄踆踇踈踋踍踎踐踑踒踓"),
    (0xdb6c, "踠踡踤踥踦踧踨踫踭踰踲踳踴踶踷踸踻踼踾"), (0xdb80, "踿蹃蹅蹆蹌蹍蹎蹏蹐蹓蹔蹕蹖蹗蹘"), (0xdb9b, "蹧蹨蹪蹫蹮蹱"),
    (0xdc40, "蹳蹵蹷蹸蹹蹺蹻蹽蹾躀躂躃躄躆躈躉躊躋躌躍躎躑躒躓躕躖躗躘躙躚躛躝"),
    (0xdc6c, "躭躮躰躱躳躴躵躶躷躸躹"), (0xde61, "轪辀辌辒辝辠辡辢辤辥辦辧辪辬辭辮辯農辳辴辵辷辸辺辻込辿迀迃迆"),
    (0xde80, "迉迊迋迌迍迏迒迖迗迚迠迡迣迧迬迯迱迲迴迵迶迺迻迼迾迿逇逈逌逎逓逕逘"),
    (0xdf40, "這逜連逤逥逧逨逩逪逫逬逰週進逳逴逷逹逺逽逿遀遃遅遆遈遉遊運遌過達違遖遙遚遜遝遞遟遠遡遤遦遧適遪遫"),
    (0xdf70, "遬遯遰遱遲遳遶遷選遹遺遻遼遾邁"), (0xdf80, "還邅邆邇邉邊邌邍邎邏邐邒邔邖邘邚邜邞邟邠邤邥邧邨邩邫邭邲邷邼邽邿郀"),
    (0xe040, "郂郃郆郈郉郋郌郍郒郔郕郖郘郙郚郞郟郠郣郤郥郩郪郬郮郰郱郲郳郵郶郷郹郺郻郼郿鄀鄁鄃"),
    (0xe07c, "鄚鄛鄜"), (0xe080, "鄝鄟鄠鄡"), (0xe08f, "鄰鄲鄳鄴鄵鄶鄷鄸"), (0xe0a0, "酄"),
    (0xe140, "酅酇酈酑酓酔酕酖酘酙酛酜酟酠酦酧酨酫酭酳酺酻酼醀醁醂醃醄醆醈醊醎醏醓醔醕醖醗醘醙醜醝醞醟醠醡醤醥"),
    (0xe170, "醦醧醨醩醫醬醰醱醲醳醶醷醸醹醻"), (0xe18b, "釈釋釐"), (0xe440, "銨銩銪銫銬銭"), (0xe5a0, "鍫"),
    (0xe69e, "鏋鏌鏍"), (0xe87b, "鑬鑭鑮鑯"), (0xe895, "钑钖钘铇铏铓铔铚铦铻锜锠"), (0xe940, "锧锳锽镃镈镋镕镚镠镮镴镵"),
    (0xea5c, "闬闿阇阓阘阛阞阠阣阤阥阦阧阨阩阫阬阭阯阰阷阸阹阺阾陁陃陊陎陏陑陒陓陖陗"),
    (0xea80, "陘陙陚陜陝陞陠陣陥陦陫陭陮陯陰陱陳"), (0xea9e, "隇隉隊"), (0xeb40, "隌階隑隒隓隕隖隚際"),
    (0xeb5b, "隱隲隴隵隷隸隺隻隿雂雃雈雊雋雐雑雓雔"), (0xeb77, "雡離難雤雥雦雧雫"),
    (0xeb80, "雬雭雮雰雱雲雴雵雸雺電雼雽雿霂霃霅霊霋霌霐霑霒霔霕霗霘霙霚霛霝霟霠"),
    (0xec49, "霫霬霮霯霱霳霴霵霶霷霺霻霼霽"), (0xec6a, "靔靕靗靘靚靜靝靟靣靤靦靧靨"), (0xec80, "靲靵靷靸靹靺靻"),
    (0xec8f, "鞆鞇鞈鞉鞊鞌鞎鞏鞐鞓鞕鞖鞗鞙鞚鞛鞜鞝"), (0xed40, "鞞鞟鞡鞢鞤鞥鞦鞧鞨鞩鞪鞬鞮鞰鞱鞳"), (0xed80, "韤韥韨韮韯韰韱韲韴"),
    (0xef40, "顯顰顱顲顳顴颋颎颒颕颙颣"), (0xef72, "飏飐飔飖飗飛飜飝飠飡飢飣飤"), (0xef80, "飥飦"), (0xf040, "餈餉養餋餌餎餏"),
    (0xf097, "饤饦饳饸饹饻饾馂馃馉"), (0xf140, "馌馎"), (0xf14d, "馦馧"),
    (0xf352, "驲骃骉骍骎骔骕骙骦骩骪骫骬骭骮骯骲骳骴骵骹骻骽骾骿髃髄髆髇髈髉髊髍髎髏髐髒體髕髖髗髙髚髛髜"),
    (0xf380, "髝髞髠髢髣髤髥髧髨髩髪髬髮"), (0xf396, "髺髼髽髾髿鬀鬁鬂鬄鬅鬆"), (0xf440, "鬇鬉鬊鬋鬌鬍鬎鬐鬑鬒"), (0xf455, "鬠鬡鬢"),
    (0xf463, "鬰鬱"), (0xf46d, "鬽鬾鬿魀魆魊魋魌魎魐魒魓魕魖魗魘魙魚"), (0xf780, "鱻鱽鱾鲀鲃鲄鲉鲊鲌鲏鲓鲖鲗鲘鲙鲝鲪鲬鲯鲹鲾鲿鳀鳁鳂鳈鳉鳑鳒鳚鳛鳠鳡"),
    (0xfb5c, "鸤鸧鸮鸰鸴鸻鸼鹀鹍鹐鹒鹓鹔鹖鹙鹝鹟鹠鹡鹢鹥鹮鹯鹲"),
    (0xfb7e, "麀"), (0xfb80, "麁麃麄麅麆麉麊麌麍麎麏麐麑"), (0xfb96, "麞麠麡麢麣麤麥麧麨麩麪"),
    (0xfc49, "麵麶麷麹麺麼麿黀黁黂黃黅黆黇黈黊黋黌黐黒黓黕黖黗黙黚點黡黣黤黦黨黫黬黭黮"),
    (0xfc76, "黺黽黿鼀鼁鼂鼃鼄鼅"), (0xfc80, "鼆鼇鼈鼉鼊鼌鼏鼑鼒鼔鼕鼖鼘鼚鼛鼜鼝鼞鼟鼡"), (0xfc9d, "鼭鼮鼰鼱"),
    (0xfd40, "鼲鼳鼴鼵鼶鼸鼺鼼鼿齀齁齂齃"), (0xfd80, "齹齺齻齼齽齾龁龂"), (0xfd94, "龜龝龞龡龢龣龤龥郎凉秊裏隣"),
    (0xfe40, "兀嗀﨎﨏﨑﨓﨔礼﨟蘒﨡﨣﨤﨧﨨﨩")]

/-- What pairs of octets add further. -/
def gbFurtherPairs : Table where
  spans := [
    (0xa140, 0xa17e, 0xe4c6), (0xa180, 0xa1a0, 0xe505), (0xa240, 0xa27e, 0xe526),
    (0xa280, 0xa2a0, 0xe565), (0xa340, 0xa37e, 0xe586), (0xa380, 0xa3a0, 0xe5c5),
    (0xa440, 0xa47e, 0xe5e6), (0xa480, 0xa4a0, 0xe625), (0xa4f4, 0xa4fe, 0xe772),
    (0xa540, 0xa57e, 0xe646), (0xa580, 0xa5a0, 0xe685), (0xa5f7, 0xa5fe, 0xe77d),
    (0xa640, 0xa67e, 0xe6a6), (0xa680, 0xa6a0, 0xe6e5), (0xa6b9, 0xa6c0, 0xe785),
    (0xa6f6, 0xa6fe, 0xe797), (0xa740, 0xa77e, 0xe706), (0xa780, 0xa7a0, 0xe745),
    (0xa7c2, 0xa7d0, 0xe7a0), (0xa7f2, 0xa7fe, 0xe7af), (0xa896, 0xa8a0, 0xe7bc),
    (0xa8ea, 0xa8fe, 0xe7cd), (0xa98a, 0xa995, 0x2ff0), (0xa997, 0xa9a3, 0xe7f4),
    (0xa9f0, 0xa9fe, 0xe801), (0xaaa1, 0xaafe, 0xe000), (0xaba1, 0xabfe, 0xe05e),
    (0xaca1, 0xacfe, 0xe0bc), (0xada1, 0xadfe, 0xe11a), (0xaea1, 0xaefe, 0xe178),
    (0xafa1, 0xaffe, 0xe1d6), (0xf8a1, 0xf8fe, 0xe234), (0xf9a1, 0xf9fe, 0xe292),
    (0xfaa1, 0xfafe, 0xe2f0), (0xfba1, 0xfbfe, 0xe34e), (0xfca1, 0xfcfe, 0xe3ac),
    (0xfda1, 0xfdfe, 0xe40a), (0xfea1, 0xfefe, 0xe468)]
  runs := [
    (0xa2ab, "\ue766\ue767\ue768\ue769\ue76a\ue76b"), (0xa2e3, "€\ue76d"), (0xa2ef, "\ue76e\ue76f"),
    (0xa2fd, "\ue770\ue771"), (0xa6d9, "\ue78d\ue78e\ue78f\ue790\ue791\ue792\ue793"),
    (0xa6ec, "\ue794\ue795"), (0xa6f3, "\ue796"), (0xa8bc, "\ue7c7"), (0xa8bf, "ǹ"),
    (0xa8c1, "\ue7c9\ue7ca\ue7cb\ue7cc"), (0xa958, "\ue7e2"), (0xa95b, "\ue7e3"),
    (0xa95d, "\ue7e4\ue7e5\ue7e6"), (0xa989, "〾"), (0xd7fa, "\ue810\ue811\ue812\ue813\ue814"),
    (0xfe50, "⺁\ue816\ue817\ue818⺄㑳㑇⺈⺋\ue81e㖞㘚㘎⺌⺗㥮㤘\ue826㧏㧟㩳㧐\ue82b\ue82c㭎㱮㳠⺧\ue831\ue832⺪䁖䅟⺮䌷⺳⺶⺷"),
    (0xfe76, "\ue83b䎱䎬⺻䏝䓖䙡䙌\ue843"), (0xfe80, "䜣䜩䝼䞍⻊䥇䥺䥽䦂䦃䦅䦆䦟䦛䦷䦶\ue854\ue855䲣䲟䲠䲡䱷䲢䴓䴔䴕䴖䴗䴘䴙䶮\ue864")]

/-- What four octets add, by their number in the order of such sequences. -/
def gbFour : Table where
  spans := [
    (0x0, 0x23, 0x80), (0x24, 0x25, 0xa5), (0x26, 0x2c, 0xa9), (0x2d, 0x31, 0xb2),
    (0x32, 0x50, 0xb8), (0x51, 0x58, 0xd8), (0x59, 0x5e, 0xe2), (0x5f, 0x5f, 0xeb),
    (0x60, 0x63, 0xee), (0x64, 0x66, 0xf4), (0x67, 0x67, 0xf8), (0x68, 0x68, 0xfb),
    (0x69, 0x6c, 0xfd), (0x6d, 0x7d, 0x102), (0x7e, 0x84, 0x114), (0x85, 0x93, 0x11c),
    (0x94, 0xab, 0x12c), (0xac, 0xae, 0x145), (0xaf, 0xb2, 0x149), (0xb3, 0xcf, 0x14e),
    (0xd0, 0x131, 0x16c), (0x132, 0x132, 0x1cf), (0x133, 0x133, 0x1d1), (0x134, 0x134, 0x1d3),
    (0x135, 0x135, 0x1d5), (0x136, 0x136, 0x1d7), (0x137, 0x137, 0x1d9), (0x138, 0x138, 0x1db),
    (0x139, 0x154, 0x1dd), (0x155, 0x1ab, 0x1fa), (0x1ac, 0x1ba, 0x252), (0x1bb, 0x21f, 0x262),
    (0x220, 0x220, 0x2c8), (0x221, 0x22d, 0x2cc), (0x22e, 0x2e4, 0x2da), (0x2e5, 0x2e5, 0x3a2),
    (0x2e6, 0x2ec, 0x3aa), (0x2ed, 0x2ed, 0x3c2), (0x2ee, 0x324, 0x3ca), (0x325, 0x332, 0x402),
    (0x333, 0x333, 0x450), (0x334, 0x1ef1, 0x452), (0x1ef2, 0x1ef3, 0x2011),
    (0x1ef4, 0x1ef4, 0x2017), (0x1ef5, 0x1ef6, 0x201a), (0x1ef7, 0x1efd, 0x201e),
    (0x1efe, 0x1f06, 0x2027), (0x1f07, 0x1f07, 0x2031), (0x1f08, 0x1f08, 0x2034),
    (0x1f09, 0x1f0d, 0x2036), (0x1f0e, 0x1f7d, 0x203c), (0x1f7e, 0x1fd3, 0x20ad),
    (0x1fd4, 0x1fd4, 0x2104), (0x1fd5, 0x1fd7, 0x2106), (0x1fd8, 0x1fe3, 0x210a),
    (0x1fe4, 0x1fed, 0x2117), (0x1fee, 0x202b, 0x2122), (0x202c, 0x202f, 0x216c),
    (0x2030, 0x2045, 0x217a), (0x2046, 0x2047, 0x2194), (0x2048, 0x20b5, 0x219a),
    (0x20b6, 0x20bb, 0x2209), (0x20bc, 0x20bc, 0x2210), (0x20bd, 0x20bf, 0x2212),
    (0x20c0, 0x20c3, 0x2216), (0x20c4, 0x20c5, 0x221b), (0x20c6, 0x20c7, 0x2221),
    (0x20c8, 0x20c8, 0x2224), (0x20c9, 0x20c9, 0x2226), (0x20ca, 0x20cb, 0x222c),
    (0x20cc, 0x20d0, 0x222f), (0x20d1, 0x20d5, 0x2238), (0x20d6, 0x20df, 0x223e),
    (0x20e0, 0x20e2, 0x2249), (0x20e3, 0x20e7, 0x224d), (0x20e8, 0x20f4, 0x2253),
    (0x20f5, 0x20f6, 0x2262), (0x20f7, 0x20fc, 0x2268), (0x20fd, 0x2121, 0x2270),
    (0x2122, 0x2124, 0x2296), (0x2125, 0x212f, 0x229a), (0x2130, 0x2148, 0x22a6),
    (0x2149, 0x219a, 0x22c0), (0x219b, 0x22e7, 0x2313), (0x22e8, 0x22f1, 0x246a),
    (0x22f2, 0x2355, 0x249c), (0x2356, 0x2359, 0x254c), (0x235a, 0x2366, 0x2574),
    (0x2367, 0x2369, 0x2590), (0x236a, 0x2373, 0x2596), (0x2374, 0x2383, 0x25a2),
    (0x2384, 0x238b, 0x25b4), (0x238c, 0x2393, 0x25be), (0x2394, 0x2396, 0x25c8),
    (0x2397, 0x2398, 0x25cc), (0x2399, 0x23aa, 0x25d0), (0x23ab, 0x23c9, 0x25e6),
    (0x23ca, 0x23cb, 0x2607), (0x23cc, 0x2401, 0x260a), (0x2402, 0x2402, 0x2641),
    (0x2403, 0x2c40, 0x2643), (0x2c41, 0x2c42, 0x2e82), (0x2c43, 0x2c45, 0x2e85),
    (0x2c46, 0x2c47, 0x2e89), (0x2c48, 0x2c51, 0x2e8d), (0x2c52, 0x2c60, 0x2e98),
    (0x2c61, 0x2c62, 0x2ea8), (0x2c63, 0x2c65, 0x2eab), (0x2c66, 0x2c69, 0x2eaf),
    (0x2c6a, 0x2c6b, 0x2eb4), (0x2c6c, 0x2c6e, 0x2eb8), (0x2c6f, 0x2c7c, 0x2ebc),
    (0x2c7d, 0x2da1, 0x2ecb), (0x2da2, 0x2da5, 0x2ffc), (0x2da6, 0x2da6, 0x3004),
    (0x2da7, 0x2dab, 0x3018), (0x2dac, 0x2dad, 0x301f), (0x2dae, 0x2dc1, 0x302a),
    (0x2dc2, 0x2dc3, 0x303f), (0x2dc4, 0x2dca, 0x3094), (0x2dcb, 0x2dcc, 0x309f),
    (0x2dcd, 0x2dd1, 0x30f7), (0x2dd2, 0x2dd7, 0x30ff), (0x2dd8, 0x2ecd, 0x312a),
    (0x2ece, 0x2ed4, 0x322a), (0x2ed5, 0x2f45, 0x3232), (0x2f46, 0x302f, 0x32a4),
    (0x3030, 0x303b, 0x3390), (0x303c, 0x303d, 0x339f), (0x303e, 0x305f, 0x33a2),
    (0x3060, 0x3068, 0x33c5), (0x3069, 0x306a, 0x33cf), (0x306b, 0x306c, 0x33d3),
    (0x306d, 0x30dd, 0x33d6), (0x30de, 0x3108, 0x3448), (0x3109, 0x3232, 0x3474),
    (0x3233, 0x32a1, 0x359f), (0x32a2, 0x32ac, 0x360f), (0x32ad, 0x35a9, 0x361b),
    (0x35aa, 0x35fe, 0x3919), (0x35ff, 0x365e, 0x396f), (0x365f, 0x366c, 0x39d1),
    (0x366d, 0x36ff, 0x39e0), (0x3700, 0x37d9, 0x3a74), (0x37da, 0x38f8, 0x3b4f),
    (0x38f9, 0x3969, 0x3c6f), (0x396a, 0x3cde, 0x3ce1), (0x3cdf, 0x3de6, 0x4057),
    (0x3de7, 0x3fbd, 0x4160), (0x3fbe, 0x4031, 0x4338), (0x4032, 0x4035, 0x43ad),
    (0x4036, 0x4060, 0x43b2), (0x4061, 0x4158, 0x43de), (0x4159, 0x42cd, 0x44d7),
    (0x42ce, 0x42e1, 0x464d), (0x42e2, 0x43a2, 0x4662), (0x43a3, 0x43a7, 0x4724),
    (0x43a8, 0x43f9, 0x472a), (0x43fa, 0x4409, 0x477d), (0x440a, 0x45c2, 0x478e),
    (0x45c3, 0x45f4, 0x4948), (0x45f5, 0x45f6, 0x497b), (0x45f7, 0x45fa, 0x497e),
    (0x45fb, 0x45fb, 0x4984), (0x45fc, 0x460f, 0x4987), (0x4610, 0x4612, 0x499c),
    (0x4613, 0x4628, 0x49a0), (0x4629, 0x48e7, 0x49b8), (0x48e8, 0x490e, 0x4c78),
    (0x490f, 0x497d, 0x4ca4), (0x497e, 0x4a11, 0x4d1a), (0x4a12, 0x4a62, 0x4daf),
    (0x4a63, 0x82bc, 0x9fa6), (0x82bd, 0x82bd, 0xe76c), (0x82be, 0x82be, 0xe7c8),
    (0x82bf, 0x82cb, 0xe7e7), (0x82cc, 0x82cc, 0xe815), (0x82cd, 0x82d1, 0xe819),
    (0x82d2, 0x82d8, 0xe81f), (0x82d9, 0x82dc, 0xe827), (0x82dd, 0x82e0, 0xe82d),
    (0x82e1, 0x82e8, 0xe833), (0x82e9, 0x82ef, 0xe83c), (0x82f0, 0x82ff, 0xe844),
    (0x8300, 0x830d, 0xe856), (0x830e, 0x93d4, 0xe865), (0x93d5, 0x9420, 0xf92d),
    (0x9421, 0x943b, 0xf97a), (0x943c, 0x948c, 0xf996), (0x948d, 0x9495, 0xf9e8),
    (0x9496, 0x94af, 0xf9f2), (0x94b0, 0x94b0, 0xfa10), (0x94b1, 0x94b1, 0xfa12),
    (0x94b2, 0x94b4, 0xfa15), (0x94b5, 0x94ba, 0xfa19), (0x94bb, 0x94bb, 0xfa22),
    (0x94bc, 0x94bd, 0xfa25), (0x94be, 0x98c3, 0xfa2a), (0x98c4, 0x98c4, 0xfe32),
    (0x98c5, 0x98c8, 0xfe45), (0x98c9, 0x98c9, 0xfe53), (0x98ca, 0x98ca, 0xfe58),
    (0x98cb, 0x98cb, 0xfe67), (0x98cc, 0x9960, 0xfe6c), (0x9961, 0x99e1, 0xff5f),
    (0x99e2, 0x99fb, 0xffe6)]
  runs := []

end SearchAnnotation.Encoding.Table
