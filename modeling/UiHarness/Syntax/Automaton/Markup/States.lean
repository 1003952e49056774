/-!
# The states for source with markup

Each number is ten states of thirty-six bits.  From the lowest bit on, four tell which tokens that
depend on what stands around them may come next, five which other tokens, twelve the row of
successors, and the last fifteen the row of actions.
-/

namespace UiHarness.Syntax.Automaton.Markup

/-- The tens of states 0 to 63. -/
def states0 : Array Nat := #[
  0x1200c12001000a12000e00a12000c00812000a00612000800612000600423000400423000200212000000001,
  0x2400c12002201412002000c12001e00c12001c00c12001c01212001a00c12001801012001600c12001400e12,
  0x3802012003601e12003400c12003201c12003000c12002e01a12002c00c12002a01812002800c12002601612,
  0x3e03212004003032003e02e12003e02c12003e02a12003e02812003e02612003e02412003c02212003a00c12,
  0x3c04612003c04412003e04212003e04012003e03e12003e03c12003e03a12003e03812003e03612003e03412,
  0x3c05a12003c05812003c05612003c05412003c05212004405032003c04e12003c04c12003c04a12004204812,
  0x5005032004e03032004c05032004a05032004805032004605032003c06212003c06012003c05e12003c05c12,
  0x4207412004207212004207012004206e12004206c12004206a12004206812004206612005406432005205032,
  0x5a08644005808644005608444004208212004208012004207e12004207c12004207a12004207812004207612,
  0x6209832006c08843006a09643006809443006609243006409043006208e32006008c43005e08a43005c08843,
  0x700a63200780a04300700a432007609c4300760a24300740a04300720a043007009e32006e09c43006209a32,
  0x860b24400840ac4400820a24300800a044007e0b043007c0ae44007c0ac44007a0ac4400700aa3200700a832,
  0x980b64300960b64300940b64300920a24300900b643008e09c43008c09c43008a0ac4400880a04400860b444,
  0xa40c64300a60c44300a40c24300a20a04300a00c04300a00be43009e0a044009c0bc44009c0ba44009a0b843,
  0xb60a04300b40a04300b00cc4300b20a04300ae0b64300b00ca4300ae0c84300ac0a04300aa0b04300a80a043,
  0xc80a04300c60a04300c40a04300c20a04300c00a04300bc0a04300be0a04300bc0b04300ba0a04300b80ce32,
  0xdc0e03200da0de3200d80dc3200d60da3200d40d83200d20d63200d00d43200ce0d23200cc0d03200ca0a043,
  0xf00f45300ee0f25300ec0f05300ea0ee5400e80ec5400e60ea5400e40e85300e20e63200e00e43200de0e232,
  0xfe1021201000fa2300fe1001200fc0fe1200fc0fc1200fa0fa2400f80fa2400f60fa2300f40f85300f20f653,
  0x1100fa23010e0fa23010c0fa24010a10a2301081082301061021201061001201040fa23010210612010210412,
  0x12211412012011212011e11212011c11012011a10e12011a10c1201180fa2301160fa2301140fa2301120fa23,
  0x13600054013411a54013211a54013011a54012e11812012c11212012a11212012811212012611212012411612,
  0x14800054014600054014412012014212012014012012013e12012013c12012013a11e12013811212012e11c12,
  0x15c00054015a00054015812212015600054015400054015200054015000054014e00054014c00054014a00054,
  0x17000054016e00054016c00054016a00054016800054016600054016400054016200054016000054015e00054,
  0x18412c12018212a12018012812017e12612017c12412017a00054017800054017611e15017400054017200054,
  0x19413c12019213a12019013812018e13612018c00043018a00043018813412017e13212017e13012018612e12,
  0x1a814c1201a614a1201a41481201a21461201a014412019e14212019c14012019a13e12019800043019600043,
  0x1bc1601201ba15e1201b815c1201b615a1201b41581201b21561201b01541201ae1521201ac1501201aa14e12,
  0x1d016c1201ce1661201cc16a1201ca1681201c81661201c61621201c41621201c21661201c01641201be16212,
  0x1de17c1201e217a1201e008a1201de1781201dc0881201da1761501d81741201d61721201d41701201d216e12,
  0x1ee1901201ec18e1201ea18c1201e818a1201e61881201de1861201de1841201de1821201de1801201e417e12,
  0x2021a41202001a21201fe1a01201fc19e1201fa19c1201f819a1201f61981201f41961201f21941201f019212,
  0x2021b81202021b61202021b41202081b21202021b01202041ae1202021ac1202041aa1202061a81202041a612,
  0x2041cc1202041ca1202041c81202041c61202061c412020a1c21202041c01202041be1202041bc1202041ba12,
  0x2041e012020e1de1202041dc12020e1da12020c1d812020c1d612020c1d412020c1d212020c1d012020c1ce12,
  0x2101f41202101f21202101f01202101ee1202101ec1202041ea12020e1e812020e1e612020e1e412020e1e212,
  0x2142081202142061202142041202122021202122001202121fe1202121fc1202121fa1202121f81202101f612,
  0x21821c12021621a12021621812021621612021621412021621212021621012021420e12021420c12021420a12,
  0x21a23012021a22e12021a22c12021a22a12021a22812021822612021822412021822212021822012021821e12,
  0x20024212022024012021e23e12020023c12020023a12020023812021c23612020023412020013c12021a23212,
  0x20025612020025412020025212020025012020024e12020024c12020024a12022224812020024612020024412,
  0x20026a12020026812022426612020026412020026212020026012020025e12020025c12020025a12020025812,
  0x20027c12020427a12020427812022613c12020427612020027412020027212020427012020026e12020026c12,
  0x20429012020428e12020428c12020428a12020428812020428612020428412020028212022828012020427e12,
  0x2042a41202042a21202042a012020429e12020429c12020429a12020429812020429612020429412020429212,
  0x22e2b412022c2b21202042b012020411e1202042ae12022a11e1202042ac1202042aa1202042a81202042a612,
  0x2282be1202282bc1202282ba12022c2b812023a2b612023811e12023612e12023411e12023211e12023012e12,
  0x2282d21202282d01202282ce1202282cc1202282ca1202282c81202282c61202282c41202222c21202282c012,
  0x2282e412023c14a1202222e21202282e01202282de1202242dc1202282da1202282d81202282d61202282d412,
  0x23e2f812023e2f612023e2f412023e2f212023e2f012023e2ee12023e2ec12023e2ea12023e2e812023e2e612,
  0x24012e12023e30a12023e30812023e30612023e30412023e30212023e30012023e2fe12023e2fc12023e2fa12,
  0x22c31c12022231a12022c31812022c31612022c31412022c31212024231012023e30e12023e12e12023e30c12,
  0x22c33012022c32e12022c32c12022c32a12022c32812022c32612022c32412022c32212022c32012022c31e12,
  0x22234212022234012022233e12022233c12022e33a12022c33812024414c12022c33612022c33412022c33212,
  0x22235612022235412022235212022235012022234e12022234c12022234a12022234812022234612022234412,
  0x22236612024836412022236212022214e12022236012024614e12022235e12022235c12022235a12022235812,
  0x22437a12022437812022437612022437412022437212022437012022436e12022436c12022436a12022436812,
  0x22438c12024a15012022438a12022438812022438612022438412022438212022438012022437e12022437c12,
  0x22e39e12022e39c12022e39a12022e39812022e39612022e39412022239212024c39012022438e12022415012,
  0x22e3b212022e3b012022e3ae12022e3ac12022e3aa12022e3a812022e3a612022e3a412022e3a212022e3a012,
  0x2283c012022814a1202223be1202503bc12022e3ba12022e15212022e3b812024e15212022e3b612022e3b412,
  0x2063d41202063d21202063d01202063ce1202063cc1202063ca1202063c81202063c61202063c41202283c212,
  0x2063e81202063e61202063e41202063e21202063e01202063de1202063dc1202063da1202063d81202063d612]

/-- The tens of states 64 to 127. -/
def states1 : Array Nat := #[
  0x2243f61202223f412022c3f212022c14c1202223f01202543ee1202063ec1202061541202063ea12025215412,
  0x26440624026240624026040424025e40244025c40244025a4004402223fe1202583fc1202223fa1202563f812,
  0x27841224027641024027441024027240e24027040c44026e40c44026c40c44026a40a24026840a24026640824,
  0x28c41624028a41624028800012028600012028441624028241424028041424027e41424027c41424027a41224,
  0x2a041a24029e41a24029c41624029a41824029841824029600012029400012029200012029000012028e00012,
  0x2b44222402b241e2302b041e2302ae4202302ac4202302aa41e2302a84162402a641a2402a441a2402a241c24,
  0x2c84284302c64262302c441e2302c24222402c04242402be4242402bc4222402ba4222402b841e2302b642224,
  0x2dc42c2402da42c2402d84262302d64262302d44262302d20001502d00001502ce42c2402cc42a1202ca42843,
  0x2f00001502ee0001502ec0001502ea0001502e80001202e60001202e442c2402e242c2402e042e2302de42e23,
  0x3044321203024202303004202302fe4202302fc4302302fa4302302f84262302f64262302f40001502f200015,
  0x31842023031642023031442023031242023031042023030e42023030c42023030a42023030843412030643412,
  0x32c00015032a00015032800015032600015032400012032200015032000015031e43612031c00012031a42023,
  0x34043412033e00012033c00012033a00015033800015033600015033400015033200015033000015032e00015,
  0x35200012035000012034c00012034e00012034c00012034a00012034800015034600015034400012034200012,
  0x36200012036200012035e00012036000012035e00012035c00012035a00012035800012035600012035400012,
  0x37600012037400012037200012037000012036e00012036c00012036a00012036800012036600012036400012,
  0x38200012038200012038200012038200012035e00012038000012037e00012037c00012037a43862037800012,
  0x38e00012038c00012038a00012038800012038600012038400012038400012038400012038400012038400012,
  0x39c00012039c00012039a00012039800012039800012039800012039600012039400012039200012039000012,
  0x3a40001203a40001203a40001203a40001203a20001203a00001203a00001203a000012038200012039e00012,
  0x3b20001203b043a6203ae0001203ae0001203ac0001203aa0001203a80001203a40001203a40001203a600012,
  0x3a00001203a00001203ba0001203ba0001203b80001203b60001203b60001203b40001203b20001203b200012,
  0x3cc0001203ca0001203c843a6203c60001203c40001203c20001203c20001203c00001203be0001203bc00012,
  0x3d60001203d40001203d40001203d20001203d20001203d00001203d00001203d00001203d00001203ce00012,
  0x3e20001203e20001203e00001203de0001203dc0001203dc0001203da0001203d80001203d60001203d600012,
  0x3f443e6203f243a6203f043a6203ee43c6203ec0001203ea0001203e80001203e60001203e40001203e200012,
  0x40844462040643a62040443a62040243a6204004426203fe43a6203fc43a6203fa4406203f843a6203f643a62,
  0x41000012041000012041000012041000012041000012040e00012040c00012040a00012040844862040844662,
  0x41c45862041c45662041a45462041a45262041845062041844e62041644c62041644a62041400012041200012,
  0x42846a62042646a62042446862042246672042046462042046262041846062041e45e62041e45c62041c45a62,
  0x43c47062043a46a62043846a62043646e62043446a62043246a62043046c62042e00082042c00082042a00082,
  0x45047462044e46a62044c46a62044a46a62044846a62044646a62044446a62044247262044046a62043e46a62,
  0x4504866204504846204500fa62045048262045048062045647e62045647c62045447a62045247862045047662,
  0x45049662045049462045849262045049062045048e62045046a62045048c62045648a62045046662045048862,
  0x4504aa6204564a86204564a66204564a46204564a26204504a062045049e62045049c62045a49a62045049862,
  0x4544be6204504bc6204504ba6204504b86204504b66204504b46204504b26204504b06204504ae6204504ac62,
  0x4544d26204544d062045e4ce62045e4cc6204544ca6204544c862045c4c662045c4c46204544c26204544c062,
  0x4564e46204604e26204604e062045610a6204564de6204564dc6204544da6204544d86204544d66204544d462,
  0x4624f86204564f66204564f46204564f26204564f06204564ee6204564ec6204544ea6204544e86204564e662,
  0x46250c62046250a6204625086204625066204625046204625026204645006204644fe6204624fc6204624fa62,
  0x45e52062045e51e62045e51c62046651a62046651862045e51662045e51462045e51262046251062046250e62,
  0x45a53462045a53262045053062046252e62046852c62045e52a62045e52862045e52662045e52462045e52262,
  0x45a54862045a54662045a54462045a54262045a54062045a53e62045a53c62046a53a62046a53862045a53662,
  0x45655c62045655a62045055862046255662046255462045655262045655062045a54e62045a54c62045a54a62,
  0x45057062045856e62045856c62045656a62045856862045856662045856462045856262045856062045855e62,
  0x45058462045058262045058062045057e62045057c62045057a62045057862045057662045857462045857262,
  0x45859662045859462045059262045859062045058e62046c58c62046c58a62045810862045858862045858662,
  0x47a59e9204785a09204765a09204745a09204725a09204705a092046e59e92045859c62045859a62045859862,
  0x48e5ac44048c5aa24048a5a82404885a64404865a42404845a29204825a09204805a092047e5a092047c5a092,
  0x4a25b29204a05b023049e5b023049c5b023049a5b02304985b02304965ae2404945ac4404925aa2404905ae24,
  0x4b45be2404b25b84404b05bc2404ae5b02404ac5b02304aa5bc2404a85ba2404a65b84404a45b62404a25b492,
  0x4c80004304c65b02304c45c04304c25b02304c04182404be5bc2404bc5b84404ba5b02404b85bc2404b65ba24,
  0x4d841a2404d60004304d40004304d20004304d05c22304ce0004304cc0004304ca0004304cc0004304ca00043,
  0x4ec5c42304ea5b02304e85b02304e65ba2404e45b84404e24182404e04182404de5b04304dc5b04304da41a24,
  0x4fe41a2404fc5ca2404e45c84404fa41a2404f841a2404f65c62404f40004304f20004304f05b02304ee5b624,
  0x5125ce2305105c224050e5cc12050c00043050a5be2405085b02305065b02305045b02405025bc24050041a24,
  0x5265b02305245b02305225b02305205b023051e5b023051c5b023051a5c22405185c22305165d024051400023,
  0x53a0002305380002305360001205345c42305325d44305305c424052e5d212052c5b023052a00023052800023,
  0x54e5c224054c5c424054a5b02305485c22305460002405440002305425c423054000023053e00023053c00023,
  0x5625c243056000023055e5b023055c5b023055a5b02305585b02305565b02305545c22305525b023055000023,
  0x5765c423057400012057200023057000024056e00012056c5d212056a0002305680002405665b02305645b023,
  0x58a5c42405880002305860002305845c423058200023058000023057e00023057c00023057a00024057800024,
  0x59e00024059c5c423059a5c44305985c22305965c22305945c223059200024059000024058e00024058c00024,
  0x5b20002405b00002405ae0002305ac0002405aa0001205a80002405a60002405a40001205a20002405a000024]

/-- The tens of states 128 to 191. -/
def states2 : Array Nat := #[
  0x5c20002305c00002405be0002405bc0002305ba0002405b80001205b60002405b40002405b20002405b400024,
  0x5d60002405d45c22305d20002405d00002405ce0002405cc0002405ca5c42305c80002405c65c22305c400023,
  0x5ea0002405e85c42305e65c42305e40002405e20002405e00002405de0002305dc0004305da0002405d800024,
  0x5fe0002405fc0002405fa5c42305f80002305f60002305f40002305f20002305f00002305ee0002305ec00024,
  0x61200043061000023060e00023060c00024060a00043060800043060600024060400023060200023060000023,
  0x62600023062400023062200023062000023061e00023061c00023061a0002306185d662061600023061400043,
  0x63a0002406380002406360002406345e06206325de6206305dc62062e5da62062c5d862062a00023062800023,
  0x64e00023064c00023064a00023064800023064600043064400023064200023064000024063e00023063c00023,
  0x66200023066000023065e00023065c00023065a00023065800023065600023065400023065200024065000023,
  0x6765e26206745e26206725e262067000023066e00023066c5e262066a5e26206685e262066600023066400023,
  0x68a5e26206885e26206865e26206845e26206825e26206805e262067e5e262067c5e262067a5e26206785e262,
  0x69e00023069c00023069a00023069800023069600023069400023069200023069000023068e5e262068c5e262,
  0x6b20002306b00002306ae0002306ac0002306aa0002306a80002306a60002306a40002306a20002306a000023,
  0x6c60002306c40002306c20002306c00002306be0002306bc0002306ba0002306b80002306b60002306b400023,
  0x6ce5f26206cc5f06206ca5ee6206ca5ec6206ca5ea6206ca5e86206ca5e66206ca5e26206ca5e46206c800023,
  0x6e25f61506e05f26206de5fa6206dc5f61506da5f26206d85f86206d65f61506d45f61506d25f41506d05f262,
  0x6f66041206f46041206f26041206f06041206ee6025306ec6001206ea5f26206e85fe6206e65f26206e45fc62,
  0x70a61012070860e53070660c53070460a5307026085307006061506fe6061506fc0005406fa0005406f860412,
  0x71e61653071c61453071a60e53071800053071600053071400054071200053071000053070e00053070c61253,
  0x73200053073000053072e61c53072c61a53072a61853072800053072600053072400053072200053072000053,
  0x74661e54074461e54074261e54074000053073e00053073c00053073a00053073800053073600053073400053,
  0x75a00053075800053075600053075400054075262053075062053074e62053074c00053074a00053074800053,
  0x76c00053076a00053076800053076600053076400053075a00053076200053076000053075e00053075c00053,
  0x78000053077e00053077c00053077a00053077800053077600053077400053077200053077000053076e00053,
  0x78a00053078800053078600053078800053078600053078800053078600053078400053078000053078200053,
  0x79400053079200053079a00053079800053079600053079400053079200053079000053078e00053078c00053,
  0x7a60005307a40005307a60005307a40005307a20005307a000053079e00053079c00053079400053079200053,
  0x7b20005307b00005307ae0005307ac0005307aa0005307a80005307a60005307a40005307a60005307a400053,
  0x7c40005307c20005307c00005307be0005307bc0005307ba0005307b80005307b80005307b60005307b400053,
  0x7d80005307d66265307d46265307d26265307d00005307ce0005307cc6241507ca6225407c80005307c600054,
  0x7ea6265307e86265307e60005307e40005307e00005307e20005307e00005307de0005307dc6265307da00053,
  0x7fc0005307fa0005307f80005307f60005307f60005307f40005307f20005307f06265307ee0005307ec00053,
  0x81062653080e62653080c62653080a0005308086265308066265308040005308026265308000005307fe00053,
  0x82462653082262653082000053081e00053081c62653081a62653081862653081662653081462653081262653,
  0x83000053082e00053082c0005307f600053082a00053082800053082662653080662653080400053080a00053,
  0x84062653083e00053084062653083e00053083c00053083a62653083800053083600053083400053083200053,
  0x85062815084e00053084e00053084c00053084c00053084a00053084862653084662653084400053084200053,
  0x85c00053083c00053085a00053085a00053083600053083600053085800053085600053085400053085200053,
  0x86c00053086c00053085e00053086a00053086800053086600053086462653086200053086000053085e00053,
  0x88000054087e00053087c00053087a00053087862815087600053087400053087200053087000053086e00053,
  0x89462e15089262c15089062a15088e00054088c62815088a62815088800053088600053088400053088200054,
  0x8a80005308a66265308a40005308a20005408a000054089e00053089c00053089a63215089863015089600054,
  0x8bc63e5408ba0005408b80005408b60005408b463c1508b263a1508b06385408ae6365408ac6345408aa00054,
  0x8d06445308ce0005308cc6425408ca6405408c863c1508c663a1508c463c1508c263a1508c063c1508be63a15,
  0x8e40005408e26425408e06425408de6425408dc6425408da6425408d86425408d66425408d46425408d264254,
  0x8f86425408f66425408f46425408f26425408f06425408ee6425408ec6425408ea6425408e86425408e664254,
  0x9080005409066425409046425409026425409026425409006425408fe6461508fc6425408e06425408fa64254,
  0x91c00053091a00053091800053091664a15091464254091200054091064815090e00054090c63015090a00054,
  0x93063a15092e00054092c00054092a63a150928000540926000a3092464e54092264c54092063e54091e00054,
  0x94400054094200053094000053093e00054093c00053093a00053093800053093600053093400054093200053,
  0x95864254095664254095464254095264254095065453094e63a15094c65253094a63a15094865053094600054,
  0x96c64254096a64254096864254096664254096464254096264254096064254095e64254095c64254095a64254,
  0x97c64254097a64254097864254097864254097664254097464254095a64254097264254097064254096e64254,
  0x99065654098e65654098c65a12098a65854098865654098664254098464254098264254098064254097e64254,
  0x9a40005409a26605409a000015099e65e15099c40e12099a00054099862653099600054099465c54099200054,
  0x9b86621509b66425409b46425409b26425409b06425409ae0005409ac0005409aa0005409a80005409a600054,
  0x9cc0005409ca0005409c80005409c60005409c40005309c20005309c066a1509be6681509bc6661509ba66415,
  0x9e00005409de6425409dc0005409da6761509d86741509d66721509d40005309d26701509d066e1509ce66c15,
  0x9f20005409e80005409f00005409ee0005409ec0005409ea0005409e80005409e60005409e40005409e241012,
  0xa06000540a04000540a02000540a000005409fe0005409fc0005309fa0005309f80005409f60005409f400054,
  0xa18000540a16000540a12000540a14000540a12000540a10000540a0e000540a0c000540a0a000540a0800054,
  0xa24000540a22000540a20000540a1e000540a1c000540a1a000540a1c000540a1a000540a1c000540a1a00054,
  0xa30000540a28000540a26000540a28000540a26000540a2e000540a2c000540a2a000540a28000540a2600054,
  0xa3c000540a3a000540a3c000540a3a000540a3c000540a3a000540a38000540a36000540a34000540a3200054]

/-- The tens of states 192 to 255. -/
def states3 : Array Nat := #[
  0xa4c000540a4a000540a48000540a46000540a44000540a42000540a40000540a3e000540a3c000540a3a00054,
  0xa5e642540a5c000530a5a410120a58000540a56000540a54000540a52000540a50000540a50000540a4e00054,
  0xa72000530a70000540a6e000540a6c000530a6a410120a68000540a66000540a64000540a62000530a6000053,
  0xa86000540a84000540a82000530a80000530a7e410120a7c000540a7a000540a78000530a76000530a7441012,
  0xa9a626530a98626530a96626530a94626530a92626530a90626530a8e000540a8c678120a8a000540a8800054,
  0xaae626530aac626530aaa626530aa8626530aa6626530aa4626530aa2626530aa0626530a9e626530a9c62653,
  0xabe626530abc626530aba626530ab8626530ab6626530ab6626530ab4626530ab2626530a98626530ab062653,
  0xad2000540ad067a530ace000530acc000540aca000540ac8000540ac6000540ac4626530ac2626530ac062653,
  0xae467c120ae267a530ae0000540ade642540adc000540ad8000540ada000540ad8000540ad6000540ad400054,
  0xaf6680150af4000540af2626530af0000530af0000530aee67e530aec000540aea412120ae8412120ae600054,
  0xb08000540b0667e530b04000540b02000540b00000a40afe000540afc000540afa000540afa000540af868253,
  0xb18000540b16000540b1467e530b0a000540b0e000540b1267e530b10642540b0e000540b0c684530b0a00054,
  0xb28000530b28000530b2667e530b24642540b22686120b20000540b1e000540b1c000540b1a000540afa00054,
  0xb38000540b3668e150b3468c150b3268a150b30664150b2e688150b2c626530b2a000540b28000530b2800053,
  0xb48000540b46000540b46000540b44000540b42000540b40000540b3e000540b3e000540b3c000540b3a00054,
  0xb3c000540b52000540b52000540b38000540b38000540b50000540b4e000540b4c000540b4a67e530b4800054,
  0xb60000530b60000530b60000530b60000530b5e67e530b5c67e530b5a67e530b5867e530b5667e530b5400054,
  0xb74000540b72000540b70000540b6e000530b6c69a150b6a698150b68696150b66694150b64692150b6269015,
  0xb8467e530b8267e530b80000540b80000540b70000540b7e000540b7c000540b7a000540b7869c150b7667215,
  0xb986ac150b966aa150b946a8150b926a6150b906a4150b8e6a2150b8c6a0150b8a69e150b88000530b8667e53,
  0xbac6b4150baa6b2150ba86b0150ba66ae150ba467e530ba267e530ba067e530b9e67e530b9c000540b9a00054,
  0xbc0000540bbe626530bbc6bc150bba000540bb8414120bb6414120bb46ba150bb2000530bb06b8150bae6b615,
  0xbd4000540bd2000540bd0000540bce000540bcc000530bca000540bc86be150bc6000540bc4000540bc200054,
  0xbe6000530be4000540be4000540be2000530be0000540bde414120bdc414120bda000540bd8000540bd66c015,
  0xbf8000540bf8000540bf6000540bf4000540bf2000540bf0000540bee000530bec000530bea000530be800054,
  0xc0c000530c0a000530c08414120c06414120c04000540c02000a40c00414120bfe414120bfc000540bfa00054,
  0xc20000530c1e000530c1c41a150c1a41a150c18000540c16000540c14418150c12418150c10414120c0e41412,
  0xc34642540c32642540c30642540c2e6c2530c2c41a150c2a41a150c2841a150c2641a150c2441a150c2241a15,
  0xc48642540c46642540c44642540c42642540c4067e530c3e642540c3c6c4530c3a642540c38642540c3664254,
  0xc5a642540c5867e530c56642540c38642540c54642540c52642540c50642540c4e642540c4c642540c4a64254,
  0xc6c6cc530c6a6ca530c686c8530c666c6530c64642540c6267e530c60642540c5e642540c5c642540c5c64254,
  0xc8067e530c7e67e530c7c6d2150c7a67e530c786d0150c76642540c74642540c72642540c70642540c6e6ce53,
  0xc94626530c92626530c90626530c8e626530c8c626530c8a626530c88626530c866d6150c8467e530c826d415,
  0xca8626530ca6626530ca4626530ca2626530ca0626530c9e626530c9c626530c9a626530c98626530c9662653,
  0xcb8626530cb6626530cb4626530cb2626530cb0626530cae626530cae626530cac626530caa626530c9062653,
  0xccc67e530cca67e530cc867e530cc667e530cc4000530cc2000530cc067e530cbe67e530cbc626530cba62653,
  0xce0412120cde6da120cdc000530cda6d8120cd8642540cd667e530cd467e530cd267e530cd067e530cce00054,
  0xcf4626530cf2642540cf068c150cee68a150cec6e0150cea6de150ce8626530ce66dc120ce4680150ce200053,
  0xd08688150d066bc150d04414120d02000150d006ba150cfe000540cfc642540cfa6e4150cf86e2120cf662653,
  0xd1c6b8150d1a6b2150d186ae150d166a8150d1469e150d126c0150d10698150d0e6e6150d0c690150d0a6be15,
  0xd30000530d2e000530d2c000530d2a000540d28000540d26000530d24414120d22000a30d20414120d1e00054,
  0xd44000530d42000530d40000540d3e000540d3c414120d3a000530d38000530d36000530d34000540d3241412,
  0xd58626530d56626530d54626530d526d6150d506d4150d4e6d2150d4c6d0150d4a642540d48642540d4600053,
  0xd6c626530d6a626530d68626530d66626530d64626530d62626530d60626530d5e626530d5c626530d5a62653,
  0xd7c626530d7a626530d7a626530d78626530d76626530d5c626530d74626530d72626530d70626530d6e62653,
  0xd90626530d8e626530d8c626530d8a626530d88626530d86626530d84626530d82626530d80626530d7e62653,
  0xda4626530da2626530da0626530d9e626530d9c626530d9a626530d98626530d96626530d94626530d9262653,
  0xdb4626530db2626530db0626530db0626530dae626530dac626530d92626530daa626530da8626530da662653,
  0xdc86e8120dc66e8120dc4000530dc2000530dc0000530dbe626530dbc626530dba626530db8626530db662653,
  0xddc000530dda6ea120dd86ea120dd661a530dd46de150dd2646150dd0000530dce6d8120dcc626530dca62653,
  0xdec6f2150dea000530de8000530de8000530de66f0150de46ee150de26e4150de06ec150dde000530dde00053,
  0xe00000530dfe626530dfc000530dfa000530df8000150df6000150df4000530df26f8150df06f6150dee6f415,
  0xe14000530e12000530e10000530e0e000120e0c000530e0a000120e08000530e06000120e04000530e0200053,
  0xe28626530e26626530e24626530e22626530e20626530e1e626530e1c626530e1a626530e18626530e1600053,
  0xe3c626530e3a626530e38626530e36626530e34626530e32626530e30626530e2e626530e2c626530e2a62653,
  0xe4c626530e4a626530e48626530e46626530e44626530e42626530e42626530e40626530e3e626530e2462653,
  0xe60626530e5e626530e5c000540e5a626530e58626530e56626530e54626530e52626530e50626530e4e62653,
  0xe746fc150e726ea120e706e8120e6e6e8120e6c418120e6a418120e686e8120e666fa530e64000530e6262653,
  0xe88710150e8670e150e8470c150e8270a150e80708150e7e706150e7c704150e7a702150e78700150e766fe15,
  0xe9c41a120e9a41a120e9841a120e9641a120e9441a120e9271a150e90718150e8e716150e8c714150e8a71215,
  0xeb0000530eae000530eac000530eaa626530ea841a120ea641a120ea4000a30ea241a120ea041a120e9e41a12,
  0xec0000650ec0000650ebe000650ebe000650ebc000650eba71c120eb8000650eb66e8120eb4000650eb200053,
  0xecc000650eca000650ec8000650ec8000650ec6000650ec6000650ec4000650ec4000650ec2000650ec200065,
  0xee0000530ede000530edc000530eda000650ed8658530ed6000530ed4000650ed2000650ed0000650ece00065]

/-- The tens of states 256 to 319. -/
def states4 : Array Nat := #[
  0xef4720120ef2000620ef0000620eee71e120eec000120eea000120ee8000530ee6000530ee4000530ee200053,
  0xf06724120f04722120f02722120f00722120efe65c530efc000620efa000620ef8000620ef8000620ef672012,
  0xf1a722120f18000120f1672c120f1472a120f1272a120f10728120f0e000120f0c000120f0a726120f0872612,
  0xf2e69e120f2c72c120f2a698120f2872e120f266e6120f24690120f2272a120f20646120f1e688120f1c72612,
  0xf426d0120f40738120f3e736120f3c6b8120f3a734120f386b2120f366ae120f34732120f326a8120f3073012,
  0xf56416120f5473c120f526c0120f506be120f4e6bc120f4c6ba120f4a73a120f486d6120f466d4120f446d212,
  0xf6a746120f68746120f66746120f6464a120f6266a120f60744120f5e742120f5c740120f5a73e120f586d812,
  0xf7e416120f7c74a120f7a746120f78746120f76746120f74746120f72748120f7073e120f6e41c120f6c74612,
  0xf9268e120f9074c120f8e6e0120f8c664120f8a726120f8865e120f86722120f84000120f826e8120f8073e12,
  0xfa66ac120fa46aa120fa2752120fa069c120f9e69a120f9c750120f9a74e120f986e6120f96692120f9467412,
  0xfba754120fb8680120fb6722120fb46e8120fb2000120fb0000120fae000120fac000120faa000120fa874612,
  0xfce690120fcc72a120fca68c120fc8758120fc6756120fc46e0120fc26de120fc06de120fbe688120fbc72612,
  0xfe2698120fe0764120fde762120fdc760120fda75e120fd875c120fd675a120fd46e6120fd26e4120fd06e412,
  0xff676e120ff476c120ff276a120ff0768120fee766120fec730120fea6fe120fe86fe120fe669e120fe472c12,
  0x100a77c12100877a1210067781210046ae1210027321210006a8120ffe776120ffc774120ffa772120ff877012,
  0x101e6d612101c6d412101a6d21210186d01210166721210147361210126b812101073412100e6b212100c77e12,
  0x10327828210305c282102e78012102c73c12102a6c01210286be1210266bc1210246ba12102268a12102073a12,
  0x103600082103800082103600082103800082103600082103800082103600082103800082103600082103478482,
  0x103a00082103a00082103a00082103a00082103a00082103800082103600082103800082103600082103800082,
  0x104478c12104278a821040788b2103e5c412103c786b2103a00082103a00082103a00082103a00082103a00082,
  0x105400012105200012105000012104e00012104c00082104c00082104c00082104a0008210480008210465c412,
  0x106000012105e79085105c78e85105a5c685105800015105600015105200012105000012105200012105000012,
  0x107200012107000022106e00012106c00012106a00012106800012106800012106600012106400012106279212,
  0x108400012108200012108000012107e00012107600012107c00012107a00012107800012107600012107400012,
  0x109400012109200012109200012109200012109000012108e00012108c00012108a00012108800012108600012,
  0x10a80001210a679a1210a47981210a27961210a079412109e00012109c00012109a00012109800012109600012,
  0x10b60008510b80008510b60008510b40001210b20001210b20001210b00001210ae0001210ac0001210aa00012,
  0x10b60008510b80008510b60008510b80008510b60008510b80008510b60008510b80008510b60008510b800085,
  0x10ba0008510ba0008510ba0008510ba0008510ba0008510ba0008510ba0008510ba0008510ba0008510b800085,
  0x10cc7a61210ca7a41210c87a21210c60002210c40002210c27a08610c079e8610be79c8610bc5d01510ba00085,
  0x10e00002210de0002210dc0002210da7b01210d87ae1210d67ac1210d47aa1210d20002210d00002210ce7a812,
  0x10f45c4b210f27bc1510f07ba1510ee7b81510ec0001210ea7b61210e80001210e67b41510e47b21210e200022,
  0x11087ce1511067cc1511047ca1511027c81511007c61510fe7c41510fc7c21510fa7c01510f80001210f67be15,
  0x111c7e215111a7e01511187de1511167dc1511147da1511127d81511107d615110e7d415110c7d215110a7d015,
  0x11307ee12112e7e615112c7ec12112a7e61511287ea1211267e61511247e81511225d01511207e615111e7e415,
  0x11447fc1511427fa15114000012113e00012113c00012113a7f81511387f6b211367f41211347f21211327f012,
  0x115880415115680215115400012115200012115080015114e00012114c00012114a7fe15114800012114600012,
  0x116c00085116a00085116800085116680e1511647e815116280c16116000012115e80a15115c80815115a80615,
  0x117200015117000015117200015117000015117400015117200015117000015116e00015116c00085116c00085,
  0x117c00086117e00086117c00086117e00086117c00086117e00086117c00086117a00085117800085117600085,
  0x118000086118000086118000086117e00086117c00086117e00086117c00086117e00086117c00086117e00086,
  0x11867b2121184812121182810b2118000086118000086118000086118000086118000086118000086118000086,
  0x119682215119882015119681e15119481c15119281a15119081815118e5ce12118c81615118a792121188814b2,
  0x11a48361511a28341511a08321511a083015119e82e15119e82c15119e82a15119e82815119c82615119a82415,
  0x11aa84a1511aa8481511a88461511a68441511a68421511a48401511a483e1511a483c1511a483a1511a483815,
  0x11b60001511b40001511b20001511b08581511b08561511ae8541511ac8521511ac8501511aa84e1511aa84c15,
  0x11c885a1611c680c1611c40001511c20001511c00001511be0001511bc0001511ba0001511b80001511b800015,
  0x11dc5c28211da860b211d885eb211d661a1211d485cb211d241a1511d041a1511ce41a1511cc41a1511ca41815,
  0x11f00001511ee86a1211ec8201511ea86a1211e88681211e6866c711e48641211e2862c711e07848211de78282,
  0x11fc0001512020001512000001511fe0001511fc0001511fa0001511f80001511f661a1511f40001511f200015,
  0x121600015121400015121200015121000015120e00015120c00015120a00015120800015120600015120485a16,
  0x122600015122400015122200015122200015122200015122000015121e00015121c00015121a00015121800015,
  0x123a00015123800015123600015123400015123200015123000015122e00015122c00015122a00015122800015,
  0x124c00015124a00015124800015124600015124600015124400015124200015124000015123e00015123c00015,
  0x125e00086125e00086125c00086125a00086125800086125600086125486c16125200015125000015124e00015,
  0x126800016126600016126400086126200016126000016126200016126000016126200016126000016125e00086,
  0x127c87cb2127a87a12127887a1212765c4121274878c71272876c71270874c7126e872c7126c870c7126a86ec7,
  0x129086a12128e88412128c88815128a886151288884121286882c7128400012128288012128087e12127e87e12,
  0x12a40001612a20001612a000016129e88c15129c88a15129a00016129800016129600015129400016129200015,
  0x12b67921212b487e1212b287a1212b0896b212ae894b212ac8921212aa890b212a888e1212a60001612a600016,
  0x12ca0001212c889c1212c64181212c40001212c289a1212c087cb212be8981212bc87e1212ba87a1212b85c412,
  0x12da0001212d80001212c28a81212be8a61212d60001212d48a41212d28a0b212d08a2b212ce8a0b212cc89eb2,
  0x12ea8a0b212e88a0b212e68b21212e68b01212e48ae1512e20001212e08ac1212de8881512dc8861512c88aa12,
  0x12fc8c21512fa8c01512f88be1512f68841212f48bc1512f28ba1512f08b81512ee8b61512d48b41212ec8a0b2]

/-- The tens of states 320 to 383. -/
def states5 : Array Nat := #[
  0x13108d615130e8d415130c8d215130a8d01513088ce1513068cc1513048ca1513028c81513008c61512fe8c415,
  0x13248ea1513228e81513208e615131e8e415131c8e215131a8e01513188de1513168dc1513148da1513128d815,
  0x13388fe1513368fc1513348fa1513328f81513308f615132e8f415132c8f215132a8f01513288ee1513268ec15,
  0x134c91215134a91015134890e15134690c15134490a15134290815134090615133e90415133c90215133a90015,
  0x136041a12135e00016135c41a12135a00016135800016135600016135441a12135291816135091616134e91415,
  0x137200016137000016136800016136e00016136c00016136a00016136800016136600016136400016136241a12,
  0x138600016138400016138200016138000016137e00016137c00016137a00016137800016137600016137400016,
  0x139600016139400016139200016139000016138e00016138c00016138a00016138a00016138a00016138800016,
  0x13aa0001613a80001613a60001613a40001613a20001613a000016139e00016139c00016139a00016139800016,
  0x13bc0001613ba0001613b80001613b60001613b40001613b20001613b20001613b00001613ae0001613ac00016,
  0x13ca922b213c88a0b213c6920b212e091e1212c291c1213c4890b212c891a1213c20001613c041a1213be00016,
  0x13d2894b212c892e1212c292c1213d08a0b213ce8a0b212e092a1212c29281212c89261212c29241213cc8a0b2,
  0x13e48a0b213e2936b213e0896b213de8a0b213dc8a0b212c89341213da8a0b213d8932b213d68a0b213d4930b2,
  0x13f893c1213f68681213f48881513f293a7213f05b81213ee7921213ec8a0b213ea8a0b213e88a0b213e6938b2,
  0x13fc948b214040001514020001514000001513fc946b213fc944b213fc942b213fe65c1213fc940b213fa93ec8,
  0x141000012140e95215140c95215140a000161408000b21406000b213fc950b213fc94eb213fc94cb213fc94ab2,
  0x142495c121422958c8142095a12141e958c8141c95612141a95472141800082141600082141400082141200012,
  0x14380001214369621214340001214325c8121430960c8142e958c8142c93ec8142a958c8142895e121426958c8,
  0x144a00012144800012144688815144496612144296a12143c5b812144096882143e96612143c96412143a00012,
  0x145e00015145c00015145a9701214580001214569741214549723214525ba12145097012144e96e12144c96c12,
  0x146e98412144e98212146c98082146a000b2146897e12146697c12146497a1214625c012146097812143c97612,
  0x146e99412146699212147c99082147a98e32147898c12147698a15147498812147200015144e98612147096a12,
  0x14869a41514869a21514789a012148499e15148299c15148299a15147499812148072012144e99612147e00012,
  0x14889b81514869b61514869b41514869b21514869b01514869ae1514869ac1514869aa1514869a81514869a615,
  0x148a9cc15148a9ca15148a9c815148a9c615148a9c415148a9c215148a9c015148a9be15148a9bc1514889ba15,
  0x148a9e015148a9de15148a9dc15148a9da15148a9d815148a9d615148a9d415148a9d215148a9d015148a9ce15,
  0x148a9f415148a9f215148a9f015148a9ee15148a9ec15148a9ea15148a9e815148a9e615148a9e415148a9e215,
  0x148ea0815148ea0615148ea0415148ea0215148ea0015148e9fe15148e9fc15148e9fa15148e9f815148c9f615,
  0x148ea1c15148ea1a15148ea1815148ea1615148ea1415148ea1215148ea1015148ea0e15148ea0c15148ea0a15,
  0x148ea3015148ea2e15148ea2c15148ea2a15148ea2815148ea2615148ea2415148ea2215148ea2015148ea1e15,
  0x148ea4415148ea4215148ea4015148ea3e15148ea3c15148ea3a15148ea3815148ea3615148ea3415148ea3215,
  0x1490a58151490a56151490a54151490a52151490a50151490a4e151490a4c151490a4a151490a48151490a4615,
  0x1490a6c151490a6a151490a68151490a66151490a64151490a62151490a60151490a5e151490a5c151490a5a15,
  0x1496000151494a7e121492a7c151492a7a151492a78151492a76151490a74151490a72151490a70151490a6e15,
  0x14a6a881514a6a861514a4a841514a4a821514a2a801514a000015149e00015149c00015149aa7e12149800015,
  0x14b20001514b0a9a1514aea981514aea961514aca941514aca921514aaa901514aaa8e1514a8a8c1514a8a8a15,
  0x14c4aa03214c25ca121474a9e1214c0a9c8214be0001514bc0001514ba9521514b80001514b60001514b400015,
  0x144eab21214cc0001214caab082146eaae121474aac12146eaaa121474aa81214c8aa682144eaa41214c6aa212,
  0x14d0ac482147cac28214ceabc82144eac01214caabe8214c8abc82144eaba12146eab8121474ab612146eab412,
  0x14de0001214dc0001214daad21214d8ad012143c5c812143cace1214d6acc8214d4aca8214d2ac88214caac682,
  0x14f20001214f09661214eeaa68214ec0001214ea0001214e80001214e60001214e40001214e20001214e000012,
  0x1506ad6121504ad4c815029701215009661214fe0001214fc0001214fa0001214f80001214f65be1214f497012,
  0x1518000121516ae4121514ae2121512ae0121510ade72150eadcc8150cada12150a5ba12150aad81215085d212,
  0x152caf012152a5cc121528adcc81526000b21524aee121522aec121520aea12151eae812151cada12151aae612,
  0x1540afe16153eafc12153cafa12153a5d4121538af8121536af6121534aee121532000121530af412152eaf212,
  0x1554b08161552af6121550b0612154eb0412154c000b2154ab02321548000121546000b21544000121542b0015,
  0x1564b18161562b16121560000b2155e00012155cb1415155cb1215155ab10121554b0e161558b0c121556b0a12,
  0x1576b26161574b24121572000b21570b2232156eb1415156cb2012156ab14151568b1e121566b1c121564b1a16,
  0x1586b3a161584b38121582b36121580b34161580b3216157eb3012157cb2e12157ab2c121578b2a121576b2816,
  0x1596000161594000161592000161590b4816158eb4612158cb4416158cb4216158ab40121588b3e121586b3c16,
  0x15aa0001215a80001215a60001215a40001215a20001215a000015159e00015159c00015159a00015159800016,
  0x15bcb561215bab541515b8b521215b6b501215b45cc1215b2b4e7215b0adcc815ae5ca1215aeb4c1215acb4ac8,
  0x15ce0001215cc0001215cab141515c8b5a1215c60001215c40001215c20001215c00001215beb141515beb5815,
  0x15e0b681215deb141515dcb141515dcb661515dab641515d8b621215d60001215d4b601215d2b5e1215d0b5c12,
  0x15f0b741215eeb141515ecb141515ecb721515eab701515e8b6e1215e6b141515e4b141515e4b6c1515e2b6a15,
  0x1602b82121600b801215feb7e1215fcb7c1215fa5d21215f8b7a1215f6b141515f4b141515f4b781515f2b7615,
  0x1614ada1216125be121612b8c121610b8a12160eb8812160cb8612160ab8412160800012160600012160400012,
  0x1628000c71626b901216240001216220001216205d212161eb8e12161caee12161aada1216185d2121616aee12,
  0x1638000121636b9c151634b9a121632b98121632b96121630000121626b9412162e5d212162c00082162ab9272,
  0x1646ba6221644000121642000c71640000b2163e000c7163cba4161632ba2121626ba012163ab9ec9163800012,
  0x1650000121632bb2121632bb0121632bae12164e00015164cbac161632baa121626ba812164a000c71648ad612,
  0x165c000c7165a000121658bba161632bb8121656bb6c91654000151652bb415165000012165000012165000012,
  0x1632bc012166a000c71668ae0121666ad6121664bbe121662bbc12166000012165e000c7165e000c7165c000c7,
  0x1626bc8121672000121672000121672000121672000121670000151632bc6121632bc412166e00015166cbc216]

/-- The tens of states 384 to 447. -/
def states6 : Array Nat := #[
  0x1682000b21680000b2167ebb6c9167c00012167a000121678000151676000151674bce151674bcc151674bca15,
  0x1692bd4151626bd212169000015168e00012168c000121632bd012168aae0121688000121686000c71684000c7,
  0x1692be8151692be6151692be4151692be2151692be0151692bde151692bdc151692bda151694bd8121692bd615,
  0x16a000015169e000b2169a00015169600015169c00015169a000151698000151696000151694bec121692bea15,
  0x16a4bfe1516a4bfc1516a4bfa151694bf81216a60001516a4bf61516a4bf4151626bf2121632bf01216a2bee32,
  0x16a4c121516a4c101516a4c0e1516a4c0c1516a4c0a1516a4c081516a4c061516a4c041516a4c021516a4c0015,
  0x16a4c261516a4c241516a4c221516a4c201516a4c1e1516a4c1c1516a4c1a1516a4c181516a4c161516a4c1415,
  0x1694c381216a80001516a4c361516a4c341516a4c321516a4c301516a4c2e1516a4c2c1516a4c2a1516a4c2815,
  0x16b20001516b20001516b0000151632c3a1216ae000b216aa0001516ac0001516ac0001516aa0001516a800015,
  0x16b4c4e1516b4c4c1516b4c4a1516b4c481516b4c461516b4c44151694c421216b4c401516b4c3e151626c3c12,
  0x16b4c621516b4c601516b4c5e1516b4c5c1516b4c5a1516b4c581516b4c561516b4c541516b4c521516b4c5015,
  0x16b4c761516b4c741516b4c721516b4c701516b4c6e1516b4c6c1516b4c6a1516b4c681516b4c661516b4c6415,
  0x16b4c8a1516b4c881516b4c861516b4c841516b4c821516b4c801516b4c7e1516b4c7c1516b4c7a1516b4c7815,
  0x16b4c9e1516b4c9c1516b4c9a1516b4c981516b4c961516b4c941516b4c921516b4c901516b4c8e1516b4c8c15,
  0x16b60001516b4cb01516b4cae1516b4cac1516b4caa1516b4ca81516b4ca61516b4ca41516b4ca21516b4ca015,
  0x16c0cb81516be0001516bc000151626cb6121632cb41216ba0001516b80001516b80001516b6000151694cb212,
  0x16c0ccc1516c0cca1516c0cc81516c0cc61516c0cc41516c0cc21516c0cc01516c0cbe1516c0cbc1516c0cba15,
  0x16c0ce01516c0cde1516c0cdc1516c0cda1516c0cd81516c0cd61516c0cd41516c0cd21516c0cd01516c0cce15,
  0x16c0cf41516c0cf21516c0cf01516c0cee1516c0cec1516c0cea1516c0ce81516c0ce61516c0ce41516c0ce215,
  0x16c0d081516c0d061516c0d041516c0d021516c0d001516c0cfe1516c0cfc1516c0cfa1516c0cf81516c0cf615,
  0x16c0d1c1516c0d1a1516c0d181516c0d161516c0d141516c0d121516c0d101516c0d0e1516c0d0c1516c0d0a15,
  0x16c40001516c40001516c2000151694d281216c20001516c0d261516c0d241516c0d221516c0d201516c0d1e15,
  0x16cad381516cad361516cad341516cad321516cad301516cad2e151626d2c1216cad2a1516c80001516c600015,
  0x16cad4c1516cad4a1516cad481516cad461516cad441516cad421516cad401516cad3e1516cad3c1516cad3a15,
  0x16cad601516cad5e1516cad5c1516cad5a1516cad581516cad561516cad541516cad521516cad501516cad4e15,
  0x1694d6c1216d20001516d0d6a1516d0d681516d0d661516d0d641516ce0001516cc000151694d621216cc00015,
  0x16e00001516e00001516de0001616dc0001516da0001516d60001516d80001516d60001516d40001516d200015,
  0x16f4000b216f20001616f00001616ee0001516ec0001516ea0001516e80001516e60001516e40001216e200012,
  0x17000001516fe0001516fc0001216fa0001516f80001516f80001516f80001516f80001516e00001516f600016,
  0x16f800015170c000b2170a00015170800015170800015170600015170400015170400015170400015170200015,
  0x171800015171800015171600015171400015171200015171000015171000015170e00015170e00015170e00015,
  0x172200015170e00015170e00015172000015172000015171e00015171c00015171c00015171a00015171800015,
  0x173000015173000015173000015172e00015172c00015172a00015172800015172600015172600015172400015,
  0x173e000c7173c00015173a00015173a00015173800015173600015173400015173200015173200015173000015,
  0x174e000c7174c000c7174c000c7174a000c7174a000c71748000c71746000c71744000c71742000c71740000c7,
  0x1762000b21760000b2175e000b2175c000b2175a000b21758000b21756000b21754000c71752000c71750000c7,
  0x177200032177000015176e00015176c000b2176a000b21768000b21766000b21764000b21764000b21762000b2,
  0x1786000151784d7a161782ad6121780d7822177ed7616177cd74c9177ad72121778d70721776d6e12177400032,
  0x1798ae0121694d82121796000151794000151792d80161790ae012178ead612178cd7e12178ad7c161788bb6c9,
  0x17a2d8e721694d8c121694d8a121694d88121694d861217a000015179e000151694d8412179c00015179a00015,
  0x1626d9c1217b4bb6c917b2d9ac917b0bb6c917aed98c917acd967217aad941617a8bb6c917a6d921617a4d90c9,
  0x1632dae121632dac121632daa121632da8121626da6121632da4121626da2121632da0121626d9e1217b65d212,
  0x1632dc0121626dbe1217b85d2121626dbc121632dba121632db8121632db6121632db4121632db2121632db012,
  0x17c6dc8da17c40008217c2ae0121632dc61217c0ae01217bead6121632dc41217bcad61217ba5d2121632dc212,
  0x17dadd8da17d8dd61217d6dd41517d4dd21517d2dd01517d0dce1517ce5d21217cc0008217cadcc1517c8dcaea,
  0x17eede81517ecde61217eade41517e8de21517e6de01517e40001217e20001217e0dde1517deddc1517dcddaea,
  0x1800ddaea17fedd8da17fcdf41217fadf2121632df01217f8dee1217f60001617f4dec1217f2dea1217f0de815,
  0x18140001218125c21218105d212180edfc12180cdfa12180ade8151808df8151806000121804ddc151802df612,
  0x1824000121694e06121822dfc121820e0412181e000c8181ce0222181a000c81818df4121816e00121632dfe12,
  0x1838000121836000121834e10221832e10221830e0e12182ee0d02182ce0af2182a000121828e0812182600012,
  0x184c00012184ae15021848e12f21846000121844000121842000121840e1612183ee1022183ce1502183ae12f2,
  0x1860ddaea185edd8da185ce2212185ae20151858e1e151856e1c151854e1aea1852e18da185000012184e00012,
  0x1874e26da187200012187000012186edf412186c00012186a634121868df4121866de8151864de8151862e2415,
  0x1888dd8da1886e2cea1884e2ada188200012188000012187e00012187c5c612187addaea1878dd8da1876e28ea,
  0x189c79c12189addaea1898dd8da1896e30ea1894e2eda189200012189000012188e00012188c60812188addaea,
  0x18b0dd8da18aee38ea18ace36da18aaddaea18a8dd8da18a6e34ea18a4e32da18a20001218a000012189e00012,
  0x1632e3e1218be4341218bc4341218ba000121632e3c1218b85c2121632e3a1218b65d21218b40008218b2ddaea,
  0x18c40001218c20001218c0000121632e4c121632e4a121632e48121632e46121632e44121632e42121632e4012,
  0x18d4dcc1218d20001518d00001518cee521218cc0001218ca000121632e50121632e4e1218c80001218c600012,
  0x18e4dd61218e2e601218e00001218de0001218dae5e1218dce5c1218dce5a1218dae581218d8e561218d6e5412,
  0x18f4e6e1218f20001218f00001218eee6c1218ece6a1218eae681218e8e661218e4e641218e6dec1218e6e6212,
  0x1908000121906e5e121904e5c121902e5c121900e5e1218fee5e1218fce5c1218fa0001218f8e701218f600015,
  0x191c00012191ae78121918e76121916000121914000121912000151910e7412190ee7212190c00012190a00012,
  0x1930e8012192ee7e22192ce7c12192ae7a121928000121926000151924e64121922e64121920dec12191e00012]

/-- The tens of states 448 to 511. -/
def states7 : Array Nat := #[
  0x1942e86121940e8412193e00012193c00012193ae82121938000151936000121934000151932000121930dec12,
  0x1954e8a121952000151950e7612194e00012194c00015194a00015194a000151948000151946000151944e8812,
  0x1966e90121964e82121962000151960e0812195edec12195ce8e12192ee8c22195ae7c121958e0812195600012,
  0x1974000151974000151976000151974000151972e9612197000012196e00015196ce9412196ae88121968e9212,
  0x1986e9a121984e9a1218e8df4121982e9812198000012197e00012197c00012197a00012197800012197400015,
  0x198a00015198a00015198a00015198a00015198c00015198c00015198a00015198a00015198a00015198800015,
  0x1992000221990000c9198ee9812198a00015198a00015198a00015198a00015198a00015198a00015198a00015,
  0x199800015199800015199a00015199a000151998000151998000151998000151998000151996000151994e9a12,
  0x199800015199800015199800015199800015199800015199800015199800015199800015199800015199800015,
  0x199800015199800015199800015199800015199800015199800015199800015199800015199800015199800015,
  0x199800015199800015199800015199800015199800015199800015199800015199800015199800015199800015,
  0x199c00015199c00015199800015199800015199800015199800015199800015199800015199800015199800015,
  0x199c00015199c00015199c00015199c00015199c00015199c00015199e00015199e00015199c00015199c00015,
  0x199c00015199c00015199c00015199c00015199c00015199c00015199c00015199c00015199c00015199c00015,
  0x199c00015199c00015199c00015199c00015199c00015199c00015199c00015199c00015199c00015199c00015,
  0x199c00015199c00015199c00015199c00015199c00015199c00015199c00015199c00015199c00015199c00015,
  0x199c00015199c00015199c00015199c00015199c00015199c00015199c00015199c00015199c00015199c00015,
  0x199c00015199c00015199c00015199c00015199c00015199c00015199c00015199c00015199c00015199c00015,
  0x199c00015199c00015199c00015199c00015199c00015199c00015199c00015199c00015199c00015199c00015,
  0x199c00015199c00015199c00015199c00015199c00015199c00015199c00015199c00015199c00015199c00015,
  0x199c00015199c00015199c00015199c00015199c00015199c00015199c00015199c00015199c00015199c00015,
  0x19a00001519a00001519a00001519a00001519a00001519a20001519a00001519a00001519a00001519a000015,
  0x19a00001519a00001519a00001519a00001519a00001519a00001519a00001519a00001519a00001519a000015,
  0x19a00001519a00001519a00001519a00001519a00001519a00001519a00001519a00001519a00001519a000015,
  0x19a00001519a00001519a00001519a00001519a00001519a00001519a00001519a00001519a00001519a000015,
  0x19a00001519a00001519a00001519a00001519a00001519a00001519a00001519a00001519a00001519a000015,
  0x19a00001519a00001519a00001519a00001519a00001519a00001519a00001519a00001519a00001519a000015,
  0x19a00001519a00001519a00001519a00001519a00001519a00001519a00001519a00001519a00001519a000015,
  0x19a00001519a00001519a00001519a00001519a00001519a00001519a00001519a00001519a00001519a000015,
  0x19a00001519a00001519a00001519a00001519a00001519a00001519a00001519a00001519a00001519a000015,
  0x19a00001519a00001519a00001519a00001519a00001519a00001519a00001519a00001519a00001519a000015,
  0x19a00001519a00001519a00001519a00001519a00001519a00001519a00001519a00001519a00001519a000015,
  0x19a40001519a40001519a40001519a40001519a40001519a40001519a00001519a00001519a00001519a000015,
  0x19a40001519a40001519a40001519a40001519a40001519a40001519a40001519a40001519a40001519a400015,
  0x19a40001519a40001519a40001519a40001519a40001519a40001519a40001519a40001519a40001519a400015,
  0x19a40001519a40001519a40001519a40001519a40001519a40001519a40001519a40001519a40001519a400015,
  0x19a40001519a40001519a40001519a40001519a40001519a40001519a40001519a40001519a40001519a400015,
  0x19a40001519a40001519a40001519a40001519a40001519a40001519a40001519a40001519a40001519a400015,
  0x19a40001519a40001519a40001519a40001519a40001519a40001519a40001519a40001519a40001519a400015,
  0x19a40001519a40001519a40001519a40001519a40001519a40001519a40001519a40001519a40001519a400015,
  0x19a60001519a60001519a60001519a40001519a40001519a40001519a40001519a40001519a40001519a400015,
  0x19a60001519a60001519a60001519a60001519a60001519a60001519a60001519a60001519a60001519a600015,
  0x19a60001519a60001519a60001519a60001519a60001519a60001519a60001519a60001519a60001519a600015,
  0x19a80001519a80001519a60001519a60001519a60001519a60001519a60001519a60001519a60001519a600015,
  0x19b80002219b60002219b40002219b20002219b00002219ae0002219ac0002219aa0002219a80001519a800015,
  0x19c4ea41219c0e641219c2dec1219c2ea21219c0e221219beea01219bae5e1219bce5c1219bce9e1219bae9c12,
  0x19d8e7c1219d6ea61219d4e641219d2dec1219d0e761219cee5c1219cce5e1219cae5e1219c8e5c1219c600012,
  0x19e8eb01219daeae2219e60001219e4eac1219e20001519e00001519de0001219dcdec1219dceaa1219daea822,
  0x19fae5c1219f8e5c1219f6eb41219f4e5c1219f4eb21219f2e9a1219f0e9a1219eee981219ece081219eadec12,
  0x1a0c000121a0ae08121a08dec121a06000121a04eba121a02000121a00dec121a00eb81219feeb61219fce7612,
  0x1a1e000121a1cec0121a1a000121a18dec121a18ebe121a16ebc121a14e98121a12000121a10000121a0e00012,
  0x1a30e08121a2edec121a2c000121a2aec6121a28dec121a28ec4121a26ec2121a24e98121a22e08121a20dec12,
  0x1a42eca121a40e08121a3edec121a3cdec121a3cec8121a3ae98121a38000121a36000121a34000121a3200012,
  0x1a50e7a121a4e436121a4ced21218e8ed0121a4aece1218d4e1c121a48ecc121a46e08121a44dec121a42dec12,
  0x1a62eda121a62ed8121a60000121a5e436121a5ced6121a5a000121a58000121a56ed4121a54e7a121a5200012,
  0x1a70000121a6eee4121a6edcc121a6c000121a6aee2121a68000151a66000151a64ee0121a62ede121a62edc12,
  0x1a82ef0121a64eee121a80eec121a7eeea121a7c000151a7a000151a78000151a76000151a74ee8121a72ee612,
  0x1a6eef2121a64a80121a92000121a90000121a8e000121a8c000151a8a000121a8865c121a86000121a8400012,
  0x1aa2000121a64efc121aa0efa121a9e000121a82ef8121a9cef6121a9a000151a98000151a96ef4121a9400012,
  0x1a88f0c121a6af0a121aaaf08121aa8000721aa6000121a80f06121a80f04121a7ef02121a6af00121aa4efe12,
  0x1abcf10121abae74121ab8000151ab6000151a7ef0e121ab4000121ab2000121ab0000121aae000121aac00012,
  0x1ac8000151ac6000121ac4000151ac2000151a80f14121a7ef12121ac0000121a64a84121abe000121a64a8212,
  0x1ad8000121ad6000121a6af1a121ad4bbe121aa4f18121ad2f16121ad0000121ace000121acc000121aca00015,
  0x1aa4f24121ae6000121a6af22121ae4f20121ae2000121ae0000121ade000121adcf1e121a80f1c121ada00012]

/-- The tens of states 512 to 567. -/
def states8 : Array Nat := #[
  0x1aee000121a64a88121aee000121a64a86121abcf2c121aecf2a121abcf28121aea000121ae8000121a7ef2612,
  0x1afa000121af8000151af6000121af4000121af2000121af0000151a7ef34121a80f32121a80f30121a7ef2e12,
  0x1b08000121ad4f3c121b06000121b04000121b02000121b00000121afef3a121ad2f38121ad2f36121afc00012,
  0x1aecf48121b10000121ae4f46121aa4f44121b0e000121ae4f42121b0c000121adcf40121a6af3e121b0a00012,
  0x1b18000151b16000121b14000121a7ef4e121a80f4c121a64a8c121b12000121a64a8a121b12000121abcf4a12,
  0x1b24000121ae4f56121b22000121b20000121b1e000121afef54121b1c000121a64f52121ad2f50121b1a00012,
  0x1a64a96121b28000121a64a94121b26000121a64a92121b26000121a64f58121a64a90121b24000121a64a8e12,
  0x1b34f5a121b32000151b30000151b2e000151b2c000121b2a000121a64a9a121b2a000121a64a98121b2800012,
  0x1b38f64121b42afe121b40000151b3e61a121b3c000121b3a000121b38f62121aecf60121b36f5e121ad2f5c12,
  0x1b4a000151ad2f72121b48000121b46000121b3ef70121b44f6e121b36f6c121b36f6a121ad2f68121a7ef6612,
  0x1b52000121b50000121b4e000121a7ef7a121b36f78121ad2f76121b42b0e121b42b08121abcf74121b4c00015,
  0x1b42b1a121b42b18121abcf88121abcf86121ad2f84121a7ef82121b54000121abcf80121a80f7e121b36f7c12,
  0x1abcf94121a80f92121b5c000121b5a000121b58000121b56000121ad2f90121b36f8e121b36f8c121ad2f8a12,
  0x1b42b34121b42b32121abcfa0121ad2f9e121b36f9c121b42b28121b42b26121abcf9a121abcf98121a7ef9612,
  0x1a7efa6121b60000121b5e000121a7efa4121afefa2121b42b48121b42b44121b42b42121b42b3c121b42b3a12,
  0x1b70000121b6e000121b6c000121b6a000121a7efaa121b68000121a80fa8121b66000121b64000121b6200012,
  0x1b80000121b7e000121b7c000121b7a000121b78000121b76000121b74000121b72000121a7efae121a80fac12,
  0x1b94000121b92000121b90000121b8e000121b8c000121b8a000121b88000121b86000121b84000121b8200012,
  0x1b9afbc121a6afba121a6afb8121a74fb6121a6ee1c121a62fb4121a62fb2121a62fb0121b98000121b9600012,
  0x1a6afd0121a6afce121a6afcc121a6afca121a6afc8121aecfc6121a6afc4121aecfc2121a6afc0121a6afbe12,
  0x1a62fe0121a6afde121a6afdc121a6afda121b9e000121b9c000121a6afd8121a6afd6121a6afd4121a6afd212,
  0x1ba2000121ba00011b1a62ff0121a6afee121a6afec121a6afea121a6afe8121a6afe6121a74fe4121a62fe212,
  0x1bb6000121bb4000121bb2000121bb0000121bae000121bac000121baa000121ba8000121ba6000121ba400012,
  0x1bca000121bc8000121bc6000121bc4000121bc2000121bc0000121bbe000121bbc000121bba000121bb800012,
  0x1bde000121bdc000121bda000121bd8000121bd6000121bd4000121bd2001221bd0000121bce000121bcc00012,
  0x1bf2000121bf0000121bee000121bec000121bea000121be8000121be6000121be4000121be2000121be000012,
  0x1c06000121c04000121c02000121c00000121bfe000121bfc000121bfa000121bf8000121bf6000121bf400012,
  0x1c1a000121c18000121c16000121c14000121c12000121c10000121c0e000121c0c000121c0a000121c0800012,
  0x1c2e000121c2c000121c2a000121c28000121c26000121c24000121c22000121c20000121c1e000121c1c00012,
  0x1c42000121c40000121c3e000121c3c000121c3a000121c38000121c36000121c34000121c32000121c3000012,
  0x1c56000121c54000121c52000121c50000121c4e000121c4c000121c4a000121c48000121c46000121c4400012,
  0x1c6a000121c68000121c66000121c64000121c62000121c60000121c5e000121c5c000121c5a000121c5800012,
  0x1c7e000121c7c000121c7a000121c78000121c76000121c74000121c72000121c70000121c6e000121c6c00012,
  0x1c92000121c90000121c8e000121c8c000121c8a000121c88000121c86000121c84000121c82000121c8000012,
  0x1ca6000121ca4000121ca2000121ca0000121c9e000121c9c000121c9a000121c98001221c96000121c9400012,
  0x1cba000121cb8000121cb6000121cb4000121cb2000121cb0000121cae000121cac000121caa000121ca800012,
  0x1cce000121ccc000121cca000121cc8000121cc6001221cc4000121cc2000121cc0000121cbe000121cbc00012,
  0x1ce2000121ce0000121cde000121cdc000121cda000121cd8000121cd6000121cd4000121cd2000121cd000012,
  0x1cf6000121cf4000121cf2000121cf0000121cee000121cec000121cea000121ce8000121ce6000121ce400012,
  0x1d0a000121d08000121d06000121d04000121d02000121d00000121cfe001221cfc000121cfa000121cf800012,
  0x1d1e000121d1c000121d1a000121d18000121d16000121d14000121d12000121d10000121d0e000121d0c00012,
  0x1d32000121d30000121d2e000121d2c000121d2a000121d28000121d26000121d24000121d22000121d2000122,
  0x1d46000121d44000121d42000121d40000121d3e000121d3c000121d3a000121d38000121d36000121d3400012,
  0x1d5a0011b1d58000121d56000121d54000121d52000121d50000121d4e000121d4c000121d4a000121d4800012,
  0x1d6e000121d6c000121d6a000121d68000121d66000121d64000121d62000121d60000121d5e000121d5c00012,
  0x1d82000121d80000121d7e000121d7c000121d7a000121d78000121d76000121d74000121d72000121d7000012,
  0x1d96000121d94000121d920011b1d90000121d8e000121d8c000121d8a000121d88000121d86000121d8400012,
  0x1daa000121da8000121da6000121da4000121da20011b1da0000121d9e000121d9c000121d9a000121d9800012,
  0x1dbe000121dbc000121dba000121db8000121db6000121db4000121db20011b1db0000121dae000121dac00012,
  0x1dd2000121dd0000121dce000121dcc000121dca000121dc8000121dc6000121dc4000121dc2000121dc000012,
  0x1de6000121de4000121de2000121de0000121dde000121ddc000121dda000121dd8000121dd6000121dd400012,
  0x1dfa000121df8000121df6000121df4000121df2000121df0000121dee000121dec000121dea000121de800012,
  0x1e0e000121e0c000121e0a000121e08000121e06000121e04000121e02000121e00000121dfe000121dfc00012,
  0x1e22000121e20000121e1e000121e1c000121e1a000121e18000121e16000121e14000121e12000121e1000012,
  0x1e36000121e34000121e32000121e30000121e2e000121e2c000121e2a000121e28000121e26000121e2400012,
  0x1e3c000121e3a000121e3800012]

/-- The tens of states by their numbers. -/
def states : Array (Array Nat) := #[
  states0, states1, states2, states3, states4, states5, states6, states7, states8]

end UiHarness.Syntax.Automaton.Markup
