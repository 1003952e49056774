/-!
# The states for plain source

Each number is ten states of thirty-six bits.  From the lowest bit on, four tell which tokens that
depend on what stands around them may come next, five which other tokens, twelve the row of
successors, and the last fifteen the row of actions.
-/

namespace UiHarness.Syntax.Automaton.Plain

/-- The tens of states 0 to 63. -/
def states0 : Array Nat := #[
  0x1200c12001000a12000e00a12000c00812000a00612000800612000600423000400423000200212000000001,
  0x2400c12002201412002000c12001e00c12001c00c12001c01212001a00c12001801012001600c12001400e12,
  0x3802012003601e12003400c12003201c12003000c12002e01a12002c00c12002a01812002800c12002601612,
  0x3e03212004003032003e02e12003e02c12003e02a12003e02812003e02612003e02412003c02212003a00c12,
  0x3c04612003c04412003e04212003e04012003e03e12003e03c12003e03a12003e03812003e03612003e03412,
  0x3c05a12003c05812003c05612003c05412003c05212004205032003c04e12003c04c12003c04a12003c04812,
  0x4e05032004c03032004a03032004803032004603032004403032003c06212003c06012003c05e12003c05c12,
  0x6207243006007032005e06e43005c06c43005a06a43005806844005606844005406644005206432005003032,
  0x6c08232007008043006e08043006c07e32006007c32006007a32006a06a43006807843006607643006407443,
  0x7c09243007a09043007808e44007608e44007408043007208c43007208a43006c08832006c08632006c08432,
  0x8a09c43008808c43008608c43008408044008209a44008209844008008e44007a09643007e08044007809444,
  0x9c0a044009a09e43009809c43009609c43009409c43009208c43009008043008e08a43008c09043008c09643,
  0xac0ac4300aa0aa4300a80804300a60924300a40804300a20a84300a20a64300a00a443009e08044009c0a244,
  0xba0804300b80b43200b60804300b40804300ae0b24300b20804300b00804300ac09c4300aa0b04300ae0ae43,
  0xcc0804300ca0804300c80804300c60804300be0804300c40804300c20804300c00804300be0924300bc08043,
  0xe00c83200de0c63200dc0c43200da0c23200d80c03200d60be3200d40bc3200d20ba3200d00b83200ce0b632,
  0xf40dc5300f20da5300f00d85400ee0d65300ec0d45400ea0d25400e80d05300e60ce3200e40cc3200e20ca32,
  0x1080e61201060e42301040e42301020e42301000e42400fe0e42400fc0e42300fa0e25300f80e05300f60de53,
  0x1160e42301140e42301120e42401100f41201100f212010c0f012010e0ee23010c0ec12010a0ea2301080e812,
  0x1280005401260fa5401240fa5401220fa5401200f81201200f612011e0e423011c0e423011a0e42301180e423,
  0x13c10412013a0fe1201380fe1201360fe1201340fe12013210212013010012012e0fe12012c0fe12012a0fc12,
  0x14e00054014c00054014a00054014800054014600054014400054014200054013c10612014000054013e00054,
  0x16200054016000054015e00054015c00054015a0005401580005401560005401540005401520fe12015000054,
  0x17610812017410812017210812017000054016e00054016c00054016a00054016800054016600054016400054,
  0x18a11612018811412018611212018411012018210e12018010c12017e10c15017c10a12017a10812017810812,
  0x19c12212019a12012019811e12019600043019400043019211c12019000043018e00043018411a12018c11812,
  0x1b01361201ae1341201ac1321201aa1301201a812e1201a612c1201a412a1201a21281201a012612019e12412,
  0x1c414a1201c21481201c01461201be1441201bc1421201ba1401201b813e1201b613c1201b413a1201b213812,
  0x1d81581201d61561201d414c1201d21541201d01521201ce1501201cc14e1201ca1501201c814e1201c614c12,
  0x1ec1661201ea06c1201e81641201e606a1201e41621501e21601201e015e1201de15c1201dc15a1201da14e12,
  0x1fa17a1201f81781201f61761201f41741201f21721201f01701201e816e1201e816c1201ee16a1201e816812,
  0x20a18e12020418c12020a18a1202081881202061861202041841202021821202001801201fe17e1201fc17c12,
  0x20e1a21202061a012020619e12020a19c12020a19a12020419812020419612020419412020c19212020419012,
  0x2101b61202101b41202101b21202101b01202101ae1202061ac1202061aa1202061a81202061a61202081a412,
  0x20a1ca1202121c81202121c61202121c41202121c212020a1c01202121be1202061bc1202121ba1202101b812,
  0x2161de1202161dc1202161da1202161d81202141d61202141d41202141d21202141d01202141ce1202141cc12,
  0x21a1f212021a1f01202181ee1202181ec1202181ea1202181e81202181e61202181e41202161e21202161e012,
  0x21c20612021c20412021c20212021c20012021c1fe12021c1fc12021a1fa12021a1f812021a1f612021a1f412,
  0x22021a12022021812022021612022021412021e21212021e21012021e20e12021e20c12021e20a12021e20812,
  0x22422c44020222a12020222812020222612020222412022222212020222012020212412022021e12022021c12,
  0x20224012020223e12020223c12020223a12022a23812020223612020223412020223212022823012022622e12,
  0x20225412020225212020225012020224e12020224c12020224a12020224812020224612020224412020224212,
  0x20626612022e11612020226412020226212020a26012020225e12020225c12020225a12020225812022c25612,
  0x20627a12020627812020627612020627412020227212020a27012020226e12023026c12020a26a12020a26812,
  0x20628e12020628c12020628a12020628812020628612020628412020628212020628012020627e12020627c12,
  0x2062a012023212412020629e12020629c12020629a12020629812020629612020629412020629212020629012,
  0x24211612024010c12023e11612023c2a444023a2a812023811e1202362a61202342a44402062a212020611e12,
  0x2302ba12022a2b81202302b61202302b41202302b21202302b01202302ae1202362ac1202462aa12024410c12,
  0x2302ce1202302cc1202302ca1202302c81202302c61202302c41202302c21202302c01202302be1202302bc12,
  0x20a2e012020a2de12024a2dc1202302da12020a2d812024811e1202302d61202302d412022c2d21202302d012,
  0x20a2f412020a2f212020a2f012020a2ee12020a2ec12020a2ea12020a2e812020a2e612020a2e412020a2e212,
  0x24c13212020a30612020a30412020a30212020a30012020a2fe12020a2fc12020a2fa12020a2f812020a2f612,
  0x23631612023631412023631212023631012023630e12025030c12024e10c12020a30a12020a10c12020a30812,
  0x23632a12023632812023632612023632412023632212023632012023631e12023631c12023631a12022a31812,
  0x24a33c12024a33a12023a33812023633612025210c12023633412023633212023633012023632e12023632c12,
  0x24a35012024a34e12024a34c12024a34a12024a34812024a34612024a34412024a34212024a34012024a33e12,
  0x24a11612024a36012025413412024a35e12024a35c12024a35a12024a35812024a35612024a35412024a35212,
  0x20837212020837012020836e12020836c12020836a12020836812022a36612025836412025613612024a36212,
  0x20838612020838412020838212020838012020837e12020837c12020837a12020837812020837612020837412,
  0x22a39612022a39412025c39212025a13812020839012020813612020838e12020838c12020838a12020838812,
  0x22a3aa12022a3a812022a3a612022a3a412022a3a212022a3a012022a39e12022a39c12022a39a12022a39812,
  0x22a13812022a3bc12022a3ba12022a3b812022a3b612022a3b412022a3b212022a3b012022a3ae12022a3ac12,
  0x22c3ce12022c3cc12022c3ca12022c3c812022c3c612022c3c412022a3c21202603c012025e13a12022a3be12,
  0x22c3e212022c3e012022c3de12022c3dc12022c3da12022c3d812022c3d612022c3d412022c3d212022c3d012]

/-- The tens of states 64 to 127. -/
def states1 : Array Nat := #[
  0x23a3f412023a3f212022a3f01202623ee12022c3ec12022c13a12022c3ea12022c3e812022c3e612022c3e412,
  0x23a40812023a40612023a40412023a40212023a40012023a3fe12023a3fc12023a3fa12023a3f812023a3f612,
  0x23a41a12023a13c12023a41812023a41612023a41412023a41212023a41012023a40e12023a40c12023a40a12,
  0x20842812023642612023613412026613c12020a42412023042212023042012023013212022a41e12026441c12,
  0x27243a24027043824026e43824026c43624022a43412026a43212022a43012026842e12022c42c12022a42a12,
  0x28644624028444424028244424028044224027e44224027c44024027a43e44027843e44027643c24027443c24,
  0x29a00012029800012029600012029444824029200012029000012028e44824028c44624028a44624028844624,
  0x2ae44c2402ac44c2402aa44e2402a844c2402a644c2402a44482402a244a2402a044a24029e00012029c00012,
  0x2c24542402c04542402be4522302bc4562302ba4542402b84542402b64522302b44522302b24502302b045023,
  0x2d645e1202d44522302d245c4302d045c4302ce4562302cc4562302ca45a2302c84522302c64582402c445824,
  0x2ea4602402e84602402e64602402e44602402e245a2302e045a2302de45a2302dc0001502da0001502d846024,
  0x2fe45a2302fc4622302fa0001502f80001502f60001502f40001502f20001502f00001502ee0001202ec00012,
  0x31246812031046812030e46612030c45023030a45023030845023030646423030446423030245a23030046223,
  0x32645023032445023032245023032045023031e45023031c45023031a45023031845023031645023031445023,
  0x33a00015033800015033600015033400015033200015033000012032e00015032c00015032a46a12032800012,
  0x34e00012034c46812034a00012034800012034600015034400015034200015034000015033e00015033c00015,
  0x36000012035e00012035c00012035800012035a00012035800012035600012035400015035200015035000012,
  0x37000012037000012036c00012036e00012036c00012036a00012036800012036600012036446c62036200012,
  0x38400012038200012038000012037e00012037c00012037a00012037800012037600012037400012037200012,
  0x39000012038e00012038e00012038e00012038e00012036c00012038c00012038a00012038800012038600012,
  0x39c00012039a00012039800012039600012039400012039200012039000012039000012039000012039000012,
  0x3aa0001203aa0001203a80001203a646e6203a40001203a40001203a40001203a20001203a000012039e00012,
  0x3b20001203b20001203b20001203b20001203b00001203ae0001203ae0001203ae00012038e0001203ac00012,
  0x3be0001203be0001203bc0001203bc0001203ba0001203b80001203b60001203b20001203b20001203b400012,
  0x3ae0001203ae0001203c80001203c80001203c60001203c40001203c40001203c246e6203c00001203be00012,
  0x3da0001203d80001203d60001203d40001203d20001203d00001203d00001203ce0001203cc0001203ca00012,
  0x3e20001203e20001203e00001203e00001203de0001203de0001203dc0001203dc0001203dc0001203dc00012,
  0x3ee0001203ee0001203ee0001203ec0001203ea0001203e80001203e80001203e60001203e40001203e200012,
  0x40246e6204004726203fe46e6203fc46e6203fa4706203f80001203f60001203f40001203f20001203f000012,
  0x41447a62041447862041246e62041046e62040e46e62040c47662040a46e62040846e62040647462040446e62,
  0x41e47e62041c00012041c00012041c00012041c00012041c00012041a00012041800012041600012041447c62,
  0x41e48e62041e48c62042848a62042848862042648662042648462042248262042400012042248062042000012,
  0x43600072043449c62043249e62043049c62042e49a62042c49862042c49662042649462042a49262042a49062,
  0x44a4a462044849c62044649c6204444a262044249c62044049c62043e4a062043c49c62043a00072043800072,
  0x4580e46204584ac6204584aa6204584a862045649c62045449c62045249c6204504a662044e49c62044c49c62,
  0x4584c06204584be6204584bc62045e4ba62045e4b862045c4b662045a4b46204584b26204584b06204584ae62,
  0x4584d26204584d06204584ce6204584cc6204584ca62045849c62045e4c86204604c66204584c46204584c262,
  0x4584e662045e4e462045e4e262045e4e062045e4de6204584dc6204584da6204584d86204584d66204624d462,
  0x4644fa62045c4f862045c4f662045c4f46204584f26204584f06204584ee6204584ec6204584ea6204584e862,
  0x45c50e62045c50c62046650a62046650862045c50662045c50462045c50262045c5006204584fe6204644fc62,
  0x45e52062045e51e62045e51c62046851a62046851862045e0ee62045e51662045e51462045c51262045c51062,
  0x46a53462046a53262046a53062045e52e62045e52c62045e52a62045e52862045c52662045c52462045e52262,
  0x46a54862046a54662046a54462046a54262046a54062046a53e62046a53c62046a53a62046c53862046c53662,
  0x46655c62046655a62046655862046655662046655462046e55262046e55062046654e62046654c62046654a62,
  0x47257062045856e62047056c62047056a62046256862046256662046256462046656262046656062046655e62,
  0x46258462046258262046258062046257e62046257c62046257a62046257862046257662046257462046a57262,
  0x45e59862045859662045859462045859262046a59062046a58e62045858c62045e58a62045e58862046258662,
  0x4585ac6204605aa6204605a86204605a66204605a46204605a26204605a062045e59e62046059c62046059a62,
  0x4745be6204600ea6204605bc6204605ba6204585b86204585b66204585b46204605b26204605b062045e5ae62,
  0x4765d28204605d06204605ce6204605cc6204605ca6204605c86204585c66204605c46204585c26204745c062,
  0x48a5d28204885d28204865d68204845d28204825d28204805d282047e5d282047c5d282047a5d68204785d482,
  0x49e5e224049c5e044049a5de2404980001204960001204940001204925dc2404905da44048e5d824048c5d282,
  0x4b05ea2404ae5e42304ac5e42304aa5e88204aa5e68204a85e42304a65e42304a45e22404a25e04404a05de24,
  0x4c45f02404c25ee2404c05ec4404be5f02404bc5e42404ba5e42304b85e42304b65f02404b45ee2404b25ec44,
  0x4d80004304d60004304d40004304d20004304d00004304ce5e42304cc5f24304ca5e42304c844a2404c65e424,
  0x4e85e44304e65e44304e45e42304e244c2404e044c2404de5e42304dc0004304da0004304d80004304d600043,
  0x4fc0004304fa5e42304f85ea2404f65e42304f45e42304f25ee2404f05ec4404ee44a2404ec44a2404ea5e423,
  0x50e5e424050c5f024050a44c24050844c2405065f82404f05f644050444c24050244c2405005f42404fe00043,
  0x5225e42305205e423051e5fa24051c60223051a6002405185fa2405165fe2305145fc1205120004305105fa23,
  0x5366022405346022305326041205305e423052e5e423052c5e423052a5e42305285e42305265e42305245e423,
  0x54a5fa2305480002405465fa23054460223054200023054000023053e00023053c00023053a00012053860643,
  0x55e5e423055c5e423055a5e42305585fa4305565e42305545e42305525fa24055000023054e60224054c5e423,
  0x57200024057000012056e00023056c60412056a0002405685e42305665fa2305645e42305625e42305605e423,
  0x58660224058400024058200024058060223057e60223057c00023057a00023057800023057600012057460223]

/-- The tens of states 128 to 191. -/
def states2 : Array Nat := #[
  0x59a5fa2305985fa2305965fa23059400023059200023059060243058e00024058c00024058a00024058800024,
  0x5ae0002305ac0002405aa0002405a80001205a60002405a40002405a20002305a000023059e5fa23059c5fa23,
  0x5be0002405bc0002405ba0002405bc0002405ba0002405b80002405b60002305b40002405b20001205b000023,
  0x5d20002305d00002305ce0002305cc0002305ca0002405c80002405c60002405c40001205c20002305c05fa23,
  0x5e60004305e40002405e20002405e00002405de0002405dc0002405da0002405d86022305d60002405d400023,
  0x5fa0002405f80002305f60002405f46022305f26022305f00002405ee6022305ec0002305ea0002405e85fa23,
  0x60e00023060c60223060a0002306080002306060002306040002306020002306000002305fe0002305fc00023,
  0x62200024062000023061e00023061c00043061a00043061800023061600024061400024061200023061000023,
  0x63600023063400023063260862063000043062e00043062c00023062a00023062800024062600023062400023,
  0x64a60a62064800023064600023064400023064200023064000023063e00023063c00023063a00023063800023,
  0x65e00043065c00023065a00024065800024065600024065400024065261262065061062064e60e62064c60c62,
  0x67200023067000023066e00024066c00023066a00023066800023066600023066400023066200023066000023,
  0x68661462068400023068200023068000023067e00023067c00023067a00023067800023067600023067400023,
  0x69a61462069861462069661462069461462069261462069061462068e00023068c00023068a61462068861462,
  0x6ae0002306ac6146206aa6146206a86146206a66146206a46146206a26146206a061462069e61462069c61462,
  0x6c20002306c00002306be0002306bc0002306ba0002306b80002306b60002306b40002306b20002306b000023,
  0x6d60002306d40002306d20002306d00002306ce0002306cc0002306ca0002306c80002306c60002306c400023,
  0x6ea0002306e80002306e60002306e40002306e20002306e00002306de0002306dc0002306da0002306d800023,
  0x6f26226206f06206206f061e6206f061c6206f061a6206f06186206f06146206f06166206ee0002306ec00023,
  0x70662615070462462070262c6207006261506fe6246206fc62a6206fa6281506f86261506f66246206f462462,
  0x71a63612071863612071663612071463453071263212071062462070e63062070c62615070a62462070862e62,
  0x72e64053072c63e53072a63c53072863a53072663815072400054072263815072000054071e63612071c63612,
  0x74200053074064853073e64653073c00053073a00054073800053073600053073400053073264453073064212,
  0x75664c53075464a53075200053075000053074e00053074c00053074a00053074800053074600053074464053,
  0x76a00053076800053076600053076465054076265054076065054075e00053075c00053075a00053075864e53,
  0x77e00053077c00053077a00053077865253077665253077465253077200053077000053076e00053076c00053,
  0x79000053078e00053078c00053078a00053078800054077c00053078600053078400053078200053078000053,
  0x7a40005307a20005307a000053079e00053079c00053079a00053079800053079600053079400053079200053,
  0x7ae0005307ac0005307ae0005307ac0005307ae0005307ac0005307aa0005307a60005307a80005307a600053,
  0x7b80005307c00005307be0005307bc0005307ba0005307b80005307b60005307b40005307b20005307b000053,
  0x7ca0005307cc0005307ca0005307c80005307c60005307c40005307c20005307ba0005307b80005307ba00053,
  0x7d60005307d40005307d20005307d00005307ce0005307cc0005307ca0005307cc0005307ca0005307cc00053,
  0x7e80005307e60005307e40005307e20005307e00005307de0005307de0005307dc0005307da0005307d800053,
  0x7fc0005307fa0005307f80005307f60005307f40005307f26561507f06545407ee0005307ec0005407ea00053,
  0x80c00053080a00053080a0005308080005308060005308040005308020005308000005307fc0005307fe00053,
  0x81a00053081800053080a00053081200053081400053081600053081400053081200053081000053080e00053,
  0x82c00053082a00053082800053082800053082600053082400053082200053082000053081e00053081c00053,
  0x83800053083600053082600053083400053083400053082200053082200053083200053083065815082e00053,
  0x84800053084600053084400053084200053084000053084000053083800053083e00053083c00053083a00053,
  0x85c00053085a00053085800053085600053085400053085200053085000054084e00054084c00053084a00053,
  0x87066015086e00054086c65e15086a65c15086865a15086600054086465615086265615086065615085e00053,
  0x88400054088266854088066654087e66454087c00053087a00054087800054087600053087400053087266215,
  0x89867053089667053089466215089266015089066e54088e00054088c00054088a00054088866c15088666a15,
  0x8ac6705308aa6705308a86705308a66705308a46705308a26705308a067053089e67053089c67053089a67053,
  0x8be6705308bc6705308ba6705308a06705308b86705308b66705308b46705308b26705308b06705308ae67053,
  0x8d06705308ce6705308cc6621508ca6601508c86621508c66601508c46705308c26705308c06705308be67053,
  0x8e46745408e26745408e06745408de6745408dc6745408da6765308d86745408d66725408d46705308d267053,
  0x8f86745408f66745408f46745408f26745408f00005408ee6745408ec6745408ea6745408e86745408e667454,
  0x90a6781509086745408ec6745409066745409046745409026745409006745408fe6745408fc6745408fa67454,
  0x91c00054091a67c15091867a15091600054091466015091267454091067454090e67454090e67454090c67454,
  0x93000054092e00054092c00093092a66e54092800053092668054092467e54092200054092000053091e67454,
  0x94400054094200054094000054093e00054093c00054093a00053093800053093600053093400054093266a15,
  0x95867454095667454095466015095268653095066015094e68453094c67053094a66015094868253094600054,
  0x96c67454096a67454096867454096667454096467454096267454096067454095e67454095c67454095a67454,
  0x97e67454097c67454097a67454096067454097867454097667454097467454097267454097067454096e67454,
  0x99068854098e67454098c67454098a67454098867454098600053098467454098267454098067454097e67454,
  0x9a46901509a24401209a000054099e00054099c68e54099a00054099868854099668854099468c12099268a54,
  0x9b80005409b60005409b40005409b20005409b00005409ae0005309ac0005309aa6941509a86925409a600015,
  0x9cc0005309ca69e1509c869c1509c669a1509c46981509c26961509c06745409be6745409bc6745409ba67454,
  0x9e06705309de0005409dc6745409da6a81509d86a61509d66a41509d46a21509d26a01509d00005309ce00053,
  0x9e80005409f20005409f00005409ee0005409ec0005409ea0005409e80005409e60005409e46705309e267053,
  0xa06000540a04000540a02000540a000005409fe6705309fc4421209fa6705309f86705309f66705309f467053,
  0xa1a000540a18000540a16000540a14000540a12000540a10000540a0e000540a0c000530a0a000530a0800054,
  0xa2c670530a2a670530a28670530a26000540a22000540a24000540a22000540a20000540a1e000540a1c00054]

/-- The tens of states 192 to 255. -/
def states3 : Array Nat := #[
  0xa40670530a3e670530a3c670530a3a670530a38670530a36670530a34670530a32670530a30670530a2e67053,
  0xa50000540a4e000540a4c670530a4a670530a48670530a48670530a46670530a44670530a2a670530a4267053,
  0xa5c000540a5a000540a58000540a56000540a54000540a52000540a50000540a52000540a50000540a5200054,
  0xa66000540a64000540a6c000540a6a000540a68000540a66000540a64000540a62000540a60000540a5e00054,
  0xa78000540a7a000540a78000540a76000540a74000540a72000540a70000540a6e000540a66000540a6400054,
  0xa84000540a82000540a80000540a7e000540a7c000540a7a000540a78000540a7a000540a78000540a7a00054,
  0xa96000540a94000540a92000540a92000540a90000540a8e000540a8c670530a8a000540a88000540a8600054,
  0xaaa000540aa8000540aa6000530aa4000540aa2000530aa0442120a9e674540a9c442120a9a000540a9800054,
  0xabe000530abc000530aba442120ab8000540ab6000540ab4000530ab2000530ab0442120aae000540aac00054,
  0xad2670530ad0670530ace670530acc670530aca000540ac86aa120ac6000540ac4000540ac2000540ac000054,
  0xae6670530ae4670530ae2670530ae0670530ade670530adc670530ada670530ad8670530ad6670530ad467053,
  0xaf6670530af4670530af4670530af2670530af0670530ad6670530aee670530aec670530aea670530ae867053,
  0xb0a000540b08000540b06000540b04000530b02670530b00670530afe670530afc670530afa670530af867053,
  0xb1c674540b18000540b1a000540b18000540b16000540b14000540b126ac530b10000530b0e000530b0c00054,
  0xb30000530b2e6b0530b2c000540b2a444120b28444120b26000540b246ae120b22670530b206ac530b1e00054,
  0xb406b6150b3e000940b3c000540b3a000540b38000540b38000540b366b4530b346b2150b32000540b3000053,
  0xb4e000540b526b0530b50674540b4e000540b4c6ba530b4a000540b48000540b466b0530b44000530b426b815,
  0xb62000530b606b0530b5e674540b5c6bc120b5a000540b58000540b56000540b54000540b38000540b4a00054,
  0xb70000540b6e000540b6c6c0150b6a698150b686be150b66670530b64000540b62000530b62000530b6200053,
  0xb82000530b80000530b7e6c4150b7c6c2150b7a000540b78000540b76000540b74000540b74000540b7200054,
  0xb8e000540b72000540b8c000540b8c000540b6e000540b6e000540b8a000540b886b0530b86000530b8400053,
  0xb9c6c8150b9a000530b9a000530b9a000530b9a000530b986b0530b966c6530b946c6530b926c6530b906b053,
  0xbb0000540bae000540bac6d4150baa6a4150ba86d2150ba66d0150ba4000540ba26ce150ba06cc150b9e6ca15,
  0xbc06d8150bbe6d6150bbc000530bba6c6530bb86c6530bb66c6530bb4000540bb4000540ba4000540bb200054,
  0xbd46c6530bd26c6530bd0000540bce000540bcc6e4150bca6e2150bc86e0150bc66de150bc46dc150bc26da15,
  0xbe8446120be6446120be46ee150be2000530be06ec150bde6ea150bdc6e8150bda6e6150bd86c6530bd66c653,
  0xbfc000540bfa6f2150bf8000540bf6000530bf4000540bf2000540bf0000540bee6f0150bec000530bea00054,
  0xc10000540c0e446120c0c446120c0a000540c08000540c066f4150c04000540c02000540c00000540bfe00054,
  0xc22000540c20000540c1e000540c1c000540c1a000540c18000540c16000540c16000540c14000530c1200053,
  0xc34446120c32000530c30000540c2e000530c2c000940c2a446120c28446120c26000540c24000540c2200054,
  0xc4844a150c46000530c44000530c4244c150c4044c150c3e446120c3c446120c3a000530c38000530c3644612,
  0xc5c44c150c5a44c150c5844c150c5644c150c5444c150c52000540c50000540c4e000530c4c000530c4a44a15,
  0xc706f8530c6e674540c6c674540c6a674540c68674540c66674540c64674540c62674540c606f6530c5e44c15,
  0xc84674540c82674540c80674540c7e674540c7c674540c7a674540c78674540c76674540c746b0530c7267454,
  0xc946b0530c92674540c90674540c8e674540c8e674540c8c674540c8a674540c6c674540c88674540c8667454,
  0xca8674540ca6674540ca4674540ca2674540ca0702530c9e700530c9c6fe530c9a6fc530c986fa530c9667454,
  0xcbc6b0530cba000530cb870a150cb66c6530cb4708150cb26c6530cb06c6530cae706150cac6c6530caa70415,
  0xcd0670530cce000530ccc444120cca70e120cc8000530cc670c120cc4674540cc26b0530cc0000540cbe6b053,
  0xce4670530ce2670530ce0674540cde6c0150cdc714150cda712150cd8670530cd66b6150cd4710120cd26b215,
  0xcf86f0150cf6670530cf4446120cf2000150cf06ee150cee000540cec000530cea674540ce8718150ce671612,
  0xd0c6e0150d0a6d6150d086f4150d066d0150d0471a150d026c8150d006f2150cfe6c2150cfc6be150cfa67053,
  0xd20000540d1e000530d1c446120d1a000530d18000530d16000930d14446120d12000540d106ea150d0e6e615,
  0xd34000540d32446120d30000530d2e000530d2c000530d2a446120d28000530d26000530d24000530d2200054,
  0xd48706150d46704150d44670530d42674540d40674540d3e000530d3c000530d3a000530d38000540d3600054,
  0xd5c670530d5a670530d58670530d56670530d54670530d52670530d50670530d4e670530d4c70a150d4a70815,
  0xd70670530d6e670530d6c670530d6a670530d68670530d66670530d64670530d62670530d60670530d5e67053,
  0xd80670530d7e670530d7c670530d7a670530d78670530d76670530d76670530d74670530d72670530d5867053,
  0xd94670530d92670530d90670530d8e670530d8c670530d8a670530d88670530d86670530d84670530d8267053,
  0xda6670530da4670530da2670530d88670530da0670530d9e670530d9c670530d9a670530d98670530d9667053,
  0xdb8670530db6670530db4670530db2670530db0670530dae670530dac670530daa670530da8670530da667053,
  0xdcc670530dca670530dc8670530dc6670530dc4000530dc2000530dc0670530dbe670530dbc670530dba67053,
  0xde0670530dde670530ddc670530dda670530dd8670530dd6670530dd4670530dd2670530dd0670530dce67053,
  0xdf0670530dee670530dee670530dec670530dea670530dd0670530de8670530de6670530de4670530de267053,
  0xe0471c120e02000530e00000530dfe000530dfc670530dfa670530df8670530df6670530df4670530df267053,
  0xe1871e120e1671e120e1464c530e12712150e10678150e0e000530e0c70c120e0a670530e08670530e0671c12,
  0xe28000530e26000530e26000530e24724150e22722150e20718150e1e720150e1c000530e1c000530e1a00053,
  0xe3c670530e3a000530e38000530e36000150e34000150e32000530e3072c150e2e72a150e2c728150e2a72615,
  0xe50000530e4e000530e4c000530e4a000120e48000120e46000120e44000530e42000530e40000530e3e00053,
  0xe64670530e62670530e60670530e5e670530e5c670530e5a670530e58670530e56670530e54000530e5200053,
  0xe78670530e76670530e74670530e72670530e70670530e6e670530e6c670530e6a670530e68670530e6667053,
  0xe88670530e86670530e84670530e82670530e82670530e80670530e7e670530e64670530e7c670530e7a67053,
  0xe9c670530e9a670530e98670530e96670530e94670530e92670530e90670530e8e670530e8c670530e8a67053,
  0xeb071e120eae71c120eac71c120eaa44a120ea844a120ea671c120ea472e530ea2670530ea0670530e9e00054,
  0xec4742150ec2740150ec073e150ebe73c150ebc73a150eba738150eb8736150eb6734150eb4732150eb273015]

/-- The tens of states 256 to 319. -/
def states4 : Array Nat := #[
  0xed844c120ed644c120ed444c120ed244c120ed074e150ece74c150ecc74a150eca748150ec8746150ec674415,
  0xeec000530eea000530ee8670530ee644c120ee444c120ee2000930ee044c120ede44c120edc44c120eda44c12,
  0xefe000650efe000650efc000650efa750120ef8000650ef671c120ef4000650ef2000530ef0000530eee00053,
  0xf08000650f08000650f06000650f06000650f04000650f04000650f02000650f02000650f00000650f0000065,
  0xf1c000530f1a000650f1868a530f16000530f14000650f12000650f10000650f0e000650f0c000650f0a00065,
  0xf30752120f2e000120f2c000120f2a000530f28000530f26000530f24000530f22000530f20000530f1e00053,
  0xf42756120f4068e530f3e000620f3c000620f3a000620f3a000620f38754120f36754120f34000620f3200062,
  0xf5675e120f5475e120f5275c120f50000120f4e000120f4c75a120f4a75a120f48758120f46756120f4475612,
  0xf6a71a120f686c8120f6675e120f646c2120f62678120f606be120f5e75a120f5c756120f5a000120f5876012,
  0xf7e768120f7c6ea120f7a6e6120f78766120f766e0120f74764120f726d6120f70760120f6e6d0120f6c76212,
  0xf926f2120f906f0120f8e6ee120f8c76e120f8a70a120f88708120f86706120f84704120f8276c120f8076a12,
  0xfa667c120fa4778120fa2776120fa0694120f9e774120f9c772120f9a70c120f98448120f96770120f946f412,
  0xfba77a120fb877a120fb677a120fb477c120fb2772120fb044e120fae77a120fac77a120faa77a120fa877a12,
  0xfce714120fcc698120fca75a120fc86b8120fc6690120fc4756120fc2000120fc071c120fbe77e120fbc77a12,
  0xfe2786120fe06d4120fde6d2120fdc784120fda782120fd871a120fd66ca120fd46a6120fd26c4120fd078012,
  0xff66b2120ff4756120ff271c120ff0000120fee000120fec000120fea000120fe8000120fe677a120fe46e412,
  0x100a6c212100878c12100678a121004714121002712121000712120ffe6be120ffc75a120ffa6b6120ff878812,
  0x101e79612101c79412101a79212101879012101678e12101471a12101271812101071812100e6c812100c75e12,
  0x103279e12103079c12102e79a12102c76412102a7321210287321210266d61210247601210226d012102079812,
  0x10467ac1210446e61210427661210406e012103e7aa12103c7a812103a7a61210387a41210367a21210347a012,
  0x105a7081210587061210567041210546a412105276a12105076812104e6ea12104c7b212104a7b01210487ae12,
  0x106e5fa72106c7b412106a7701210686f41210666f21210646f01210626ee1210606c012105e76e12105c70a12,
  0x10760007210740007210760007210740007210760007210740007210760007210740007210727b87210707b672,
  0x107800072107800072107800072107800072107600072107400072107600072107400072107600072107400072,
  0x108000072107e00072107c60212107a7ba72107800072107800072107800072107800072107800072107800072,
  0x108a00012108800012108c00012108a00012108800012108600012108400072108400072108400072108260212,
  0x109c7c212109a7c01210980001210960001510947be7510927bc7510905f475108e00015108a00012108800012,
  0x10ae0001210ac0001210aa0001210a80001210a60001210a40002210a20001210a20001210a000012109e00012,
  0x10c00001210be0001210bc0001210ba0001210b80001210b60001210b40001210b20001210a80001210b000012,
  0x10d00001210ce0001210cc0001210ca0001210c80001210c60001210c40001210c40001210c40001210c200012,
  0x10e40001210e20001210e00001210de0001210dc0001210da7ca1210d87c81210d67c61210d47c41210d200012,
  0x10ee0007510ec0007510ee0007510ec0007510ee0007510ec0007510ea6001510e80001210e60001210e600012,
  0x10f00007510f00007510ee0007510ec0007510ee0007510ec0007510ee0007510ec0007510ee0007510ec00075,
  0x10f47ce7610f27cc7610f00007510f00007510f00007510f00007510f00007510f00007510f00007510f000075,
  0x11087da1211060002211040002211027d81211007d61210fe7d41210fc7d21210fa0002210f80002210f67d076,
  0x111c7e415111a7e212111800022111600022111400022111200022111000022110e7e012110c7de12110a7dc12,
  0x11307f215112e7f015112c00012112a7ee1511287ec1511267ea1511247e81511220001211207e612111e00012,
  0x114480615114280415114080215113e80015113c7fe15113a7fc1511387fa1511367f81511347f61511327f415,
  0x115860015115681815115481615115281415115081215114e81015114c80e15114a80c15114880a15114680815,
  0x116c82612116a8241211688221211668201211647ee15116281e1211607ee15115e81c12115c7ee15115a81a12,
  0x118083015117e82e15117c00012117a00012117882c15117682a15117400012117200012117000012116e82815,
  0x119400012119283a15119083815118e83615118c83415118a83215118800012118600012118400012118200012,
  0x11a40001511a20001511a00007511a00007511a000075119e00075119c00075119a83e15119881815119683c16,
  0x11b00007611ae0007511ac0007511aa0007511a60001511a40001511a60001511a40001511a80001511a600015,
  0x11b00007611b20007611b00007611b20007611b00007611b20007611b00007611b20007611b00007611b200076,
  0x11b40007611b40007611b40007611b40007611b40007611b40007611b40007611b20007611b00007611b200076,
  0x11c28461511c08441511be8421511bc7c21211ba5fe1211b87e21211b68401211b40007611b40007611b400076,
  0x11d28581511d28561511d08541511ce8521511cc64c1211c08501511ca84e1511c884c1511c684a1511c484815,
  0x11d886c1511d886a1511d88681511d88661511d88641511d68621511c88601511d485e1511d285c1511d285a15,
  0x11da8801511e087e1511de87c1511de87a1511de8781511de8761511dc8741511d48721511da8701511d886e15,
  0x11f00001511ee0001511ec0001511ea0001511ea0001511e80001511e60001511e40001511e08841511e288215,
  0x120444c15120244c15120044c1511fe44a1511fc44c1511fa83c1611f88861611f60001511f40001511f200015,
  0x121800015121600015121488c12121288c12121084e15120e88a12120c88812120a7b87212087b67212065fa72,
  0x122a00015122000015122800015122600015122400015122200015122000015121e00015121c64c15121a00015,
  0x123e00015123c00015123a00015123800015123600015123400015123200015123000015122e00015122c00015,
  0x124e00015124c00015124a00015124800015124800015124800015124600015124488616124200015124000015,
  0x126200015126000015125e00015125c00015125a00015125800015125600015125400015125200015125000015,
  0x127400015127200015127200015127000015126e00015126c00015126a00015126800015126600015126400015,
  0x128400016128200076128200076128200076128000076127e00076127c00076127a88e16127800015127600015,
  0x129060212128e00076128c00076128800016128600016128800016128600016128a00016128800016128600016,
  0x12a48961212a289a1512a089815129e89612129c00012129a89412129889212129689212129489012129289012,
  0x12b80001612b60001612b489e1512b289c1512b00001612ae0001612ac0001512aa0001612a80001512a688c12,
  0x12ca8901212c88921212c67c21212c48901212c26021212c08a21212be8a01212bc0001612bc0001612ba00016,
  0x12ce8ac1212dc0001212da8aa1212d80001212d68a81212d444a1212d20001212d08a61212ce8a41212cc89212]

/-- The tens of states 320 to 383. -/
def states5 : Array Nat := #[
  0x12da8b61212ea8b41512e80001212e68b21212e489a1512e28981512d68b01212e00001212de0001212d08ae12,
  0x12fe8c81512fc8c61512fa8c41512f88c21512f68c01512f48961212f28be1512f08bc1512ee8ba1512ec8b815,
  0x13128dc1513108da15130e8d815130c8d615130a8d41513088d21513068d01513048ce1513028cc1513008ca15,
  0x13268f01513248ee1513228ec1513208ea15131e8e815131c8e615131a8e41513188e21513168e01513148de15,
  0x133a9041513389021513369001513348fe1513328fc1513308fa15132e8f815132c8f615132a8f41513288f215,
  0x134e91816134c91615134a91415134891215134691015134490e15134290c15134090a15133e90815133c90615,
  0x136200016136000016135e44c12135c00016135a44c12135800016135600016135400016135244c12135091a16,
  0x137400016137200016137000016136e00016136c44c12136200016136a00016136800016136600016136400016,
  0x138800032138600016138400016138200016138000016137e00016137c00016137a00016137800016137600016,
  0x139800032139600016139400016139200016139000016138e00016138c00016138c00016138c00016138a00016,
  0x13ac0001613aa0001613a80003213a60001613a40001613a20001613a000016139e00016139c00016139a00016,
  0x13be0001613bc0001613ba0001613b80001613b60001613b40001613b40001613b20001613b00001613ae00016,
  0x12d69241212d09221213c86021212e69201212d091e1212d691c1213c644c1213c40001613c20001613c000016,
  0x13d288a1213d09301213ce89a1513cc5ec1213ca7c21212d692e1212d692c1212d092a1212e69281212d092612,
  0x13d693ea213d693ca213dc0001513da0001513d80001513d693aa213d6938a213d6936a213d6934a213d4932a7,
  0x13ea0007213e80007213e60001213e40001213e29461513e09461513de0001613d6944a213d6942a213d6940a2,
  0x13fe932a713fc9501213fa932a713f894e1213f6932a713f494c1213f268e1213f094aa713ee9481213ec00072,
  0x141295612141000012140e00012140c00012140a7c01214089541214065f6121404952a7140294aa71400932a7,
  0x142496212142296012142095e12141e00012141c89a15141a95812141895c1214125ec12141695a72141495812,
  0x143696a12141296812143400015143200015143096212142e00012142c96612142a9643214285ee12142600012,
  0x144600015142297812144495c12144297612142297412144097272143e97012143c96e12143a96c1214385f212,
  0x142298a12145400012144298812143c98612145298432145098212144e98072144c97e15144a97c15144897a12,
  0x145c99c15145c99a15145c99815145099612145a99415145a99215145899015145898e15144898c12145675412,
  0x14609b015145e9ae15145c9ac15145c9aa15145c9a815145c9a615145c9a415145c9a215145c9a015145c99e15,
  0x14609c41514609c21514609c01514609be1514609bc1514609ba1514609b81514609b61514609b41514609b215,
  0x14609d81514609d61514609d41514609d21514609d01514609ce1514609cc1514609ca1514609c81514609c615,
  0x14629ec1514629ea1514609e81514609e61514609e41514609e21514609e01514609de1514609dc1514609da15,
  0x1462a001514629fe1514629fc1514629fa1514629f81514629f61514629f41514629f21514629f01514629ee15,
  0x1462a14151462a12151462a10151462a0e151462a0c151462a0a151462a08151462a06151462a04151462a0215,
  0x1462a28151462a26151462a24151462a22151462a20151462a1e151462a1c151462a1a151462a18151462a1615,
  0x1464a3c151464a3a151464a38151462a36151462a34151462a32151462a30151462a2e151462a2c151462a2a15,
  0x1464a50151464a4e151464a4c151464a4a151464a48151464a46151464a44151464a42151464a40151464a3e15,
  0x1464a64151464a62151464a60151464a5e151464a5c151464a5a151464a58151464a56151464a54151464a5215,
  0x147000015146e00015146c00015146a000151468000151466a6e151466a6c151466a6a151466a68151464a6615,
  0x147ca8215147aa8015147aa7e151478a7c151478a7a151476a78151476a76151474a74151474a72151472a7015,
  0x148c00015148a946151488000151486000151484000151482000151480a8a15147ea8815147ea8615147ca8415,
  0x1442a9a121448a98121496a96721422a94121494a92121492a903214905f8121448a8e12144ea8c72148e00015,
  0x1440aac721422aaa121442aa8121448aa6121442aa4121422aa2121498000121442aa0121416a9e721448a9c12,
  0x14a2ac07214a0abe72144eabc72149eaba721416ab872149cab672144eab472149aab2721422ab012144eaae72,
  0x14b20001214b00001214ae0001214ac0001214aa0001214a89727214a6ac61214a4ac41214125f6121412ac212,
  0x14c60001214c40001214c20001214c00001214be9621214bc9581214ba0001214b80001214b60001214b400012,
  0x14d8ad01214d6ace1214d45ee1214d4acc1214d26041214d0aca1214ceac8a714cc9621214ca0001214c895812,
  0x14ecae01214eaade1214e8adc1214e6ace1214e4ada1214e20001214e0ad81214dead61214dcad41214daad2a7,
  0x1500aea1214feae21214fc0001214faae81214f8ae61214f65fc1214f4ad2a714f20001214f0ae41514eeae212,
  0x151200012151000012150eaf815150eaf615150caf412150aaf2161508af0121506aee121504606121502aec12,
  0x1524b08121522af815151cb06161520b0412151eb0212151cb0016151aaea121518afe121516afc121514afa32,
  0x1536b1a161534b18121532b16321530b1412152eb1212152cb1012152ab0e16152ab0c161528b0a121526af815,
  0x1546b2e161544b2c121542b2a121540b28161540b2616153eb2412153cb2212153ab20121538b1e121536b1c16,
  0x155600016155400016155200016155000016154eb3a16154cb3816154cb3616154ab34121548b32121546b3016,
  0x156ab3ca7156800012156600012156400012156200012156000012155e00015155c00015155a00015155800015,
  0x157a000121578af8151578b46151576b441215745fc121572b42151570ad2a7156eb4012156c5f812156cb3e12,
  0x158eb4e12158cb4c12158ab4a121588000121586000121584000121582000121580af815157eb4812157c00012,
  0x15a0b5c15159eb5a15159cb5812159aaf8151598af8151598b56151596b54151594b52121592b5012159000012,
  0x15b0b681515aeb661515acb641215aaaf81515a8af81515a8b621515a6b601515a4b5e1215a2af81515a0af815,
  0x15c2b701215c0b6e1215be0001215bc0001215ba0001215b8b6c1215b6b6a1215b46041215b2af81515b0af815,
  0x15d6ae21215d4ace1215d2ae21215d0ace1215ceb7a1215ccb7a1215cab781215c8b761215c6b741215c4b7212,
  0x15e2b821215e86041215e60007215e4b80a815e2b7e1215e00001215de0001215dc0001215da6041215d8b7c12,
  0x15f4b901615ecb8e1215e2b8c1215f20001215f20001215f0b8a1515eeb881215ecb861215ecb841215ea00012,
  0x15ecb9c121602000151600b9a1615ecb981215e2b961215feb942215fc0001215fab92a815f8aca1215f600015,
  0x160a000151608ba61615ecba4121606ba21516040001216040001216040001216040001215ecba01215ecb9e12,
  0x161ebaa12161c00012161a000121618b92a81616000121614000121612ad4121610aca12160eba812160c00015,
  0x16260001216260001216260001216260001216240001515ecbb21215ecbb0121622000151620bae1615ecbac12,
  0x162c00015163200015163000015162e00015162c00015162abbc121628bba151628bb8151628bb61515e2bb412,
  0x163ebc415163ebc21515e2bc012163c00015163a0001216380001215ecbbe121636000121634ad412163000015]

/-- The tens of states 384 to 447. -/
def states6 : Array Nat := #[
  0x163ebd815163ebd615163ebd415163ebd215163ebd015163ebce15163ebcc15163ebca15163ebc815162abc612,
  0x15ecbde121648bdc32164600015164200015164400015164400015164200015164000015162abda12164000015,
  0x164abf015164abee15164abec15164abea15164abe815162abe612164c00015164abe415164abe21515e2be012,
  0x164ac0415164ac0215164ac0015164abfe15164abfc15164abfa15164abf815164abf615164abf415164abf215,
  0x164ac1815164ac1615164ac1415164ac1215164ac1015164ac0e15164ac0c15164ac0a15164ac0815164ac0615,
  0x165000015164e00015162ac2612164e00015164ac2415164ac2215164ac2015164ac1e15164ac1c15164ac1a15,
  0x162ac30121658c2e151658c2c1515e2c2a1216560001516560001516540001515ecc2812165200015165000015,
  0x1658c44151658c42151658c40151658c3e151658c3c151658c3a151658c38151658c36151658c34151658c3215,
  0x1658c58151658c56151658c54151658c52151658c50151658c4e151658c4c151658c4a151658c48151658c4615,
  0x1658c6c151658c6a151658c68151658c66151658c64151658c62151658c60151658c5e151658c5c151658c5a15,
  0x1658c80151658c7e151658c7c151658c7a151658c78151658c76151658c74151658c72151658c70151658c6e15,
  0x1658c94151658c92151658c90151658c8e151658c8c151658c8a151658c88151658c86151658c84151658c8215,
  0x165c00015165c00015165a00015162aca012165a000151658c9e151658c9c151658c9a151658c98151658c9615,
  0x1662cb0151662cae151662cac151662caa151662ca8151662ca615166000015165e0001515e2ca41215ecca212,
  0x1662cc4151662cc2151662cc0151662cbe151662cbc151662cba151662cb8151662cb6151662cb4151662cb215,
  0x1662cd8151662cd6151662cd4151662cd2151662cd0151662cce151662ccc151662cca151662cc8151662cc615,
  0x1662cec151662cea151662ce8151662ce6151662ce4151662ce2151662ce0151662cde151662cdc151662cda15,
  0x1662d00151662cfe151662cfc151662cfa151662cf8151662cf6151662cf4151662cf2151662cf0151662cee15,
  0x1662d14151662d12151662d10151662d0e151662d0c151662d0a151662d08151662d06151662d04151662d0215,
  0x166cd1e15166cd1c1515e2d1a12166cd1815166a00015166800015166600015166400015162ad1612166400015,
  0x166cd3215166cd3015166cd2e15166cd2c15166cd2a15166cd2815166cd2615166cd2415166cd2215166cd2015,
  0x166cd4615166cd4415166cd4215166cd4015166cd3e15166cd3c15166cd3a15166cd3815166cd3615166cd3415,
  0x1670d56151670d54151670d5215166e00015162ad5012166e00015166cd4e15166cd4c15166cd4a15166cd4815,
  0x167e00015167e00015167c00016167a000151678000151674000151676000151674000151672000151670d5815,
  0x169200016169000016168e00016168c00015168a00015168800015168600015168400015168200012168000012,
  0x169e00015169c00015169a00015169800012169600015169400015169400015169400015169400015167e00015,
  0x16a80001516a80001516940001516a60001516a40001516a40001516a20001516a00001516a00001516a000015,
  0x16b40001516b20001516b20001516b20001516b00001516ae0001516ac0001516aa0001516aa0001516a800015,
  0x16c00001516be0001516bc0001516a80001516a80001516ba0001516ba0001516b80001516b60001516b600015,
  0x16cc0001516ca0001516ca0001516ca0001516ca0001516c80001516c60001516c40001516c20001516c000015,
  0x16dc0003216da0001516d80001516d60001516d40001516d40001516d20001516d00001516ce0001516cc00015,
  0x16f00001516eed641616ecd622216eab92a816e8aca1216e6d601616e4d5e1216e2d5ca816e0d5a1216de00032,
  0x1702000151700ad412162ad6c1216fe0001516fc0001516fad6a1616f8d681216f6ad41216f4aca1216f2d6616,
  0x170cd7a16170ad78a8162ad7612162ad7412162ad7212162ad7012170800015170600015162ad6e12170400015,
  0x15ecd861215e2d8412171a6041215e2d82121718b92a81716d80a81714b92a81712d7ea81710d7c16170eb92a8,
  0x15ecd9a1215ecd981215ecd961215ecd941215ecd921215ecd901215ecd8e1215e2d8c1215ecd8a1215e2d8812,
  0x1720aca12171e6041215ecda81215ecda61215e2da412171c6041215e2da21215ecda01215ecd9e1215ecd9c12,
  0x173000072172edb215172cdb0c9172adaeb91728000721726ad41215ecdac121724ad4121722aca1215ecdaa12,
  0x1742dc4151740dc2c9173edc0b915ecdbe12173cdbc12173adba151738db8151736db6151734db415173260412,
  0x1756dd2121754dd0151752dd0151750dce12174edcc15174cdca15174adc8151748000121746000121744dc615,
  0x1768dc2c91766dc0b91764dda1215ecdd8121762dd612176000012175e5fa12175c60412175add412175800016,
  0x177a000a71778de612162ade4121776de2121774de0121772dd0151770dde15176e00012176cdc415176addc12,
  0x178edee12178cde212178adec121788dea221786000a71784dda121782000121780de812177e00012177c00012,
  0x17a20001217a000012179e00012179cdf212179adf0221798000121796000121794000121792df0221790df022,
  0x17b6dc2c917b4dc0b917b2dfe1217b0dfc1517aedfa1517acdf81517aadf6c917a8df4b917a60001217a400012,
  0x17cae02b917c80001217c6dda1217c40001217c2dda1217c00001217be6641217bcdd01517badd01517b8e0015,
  0x17dedc0b917dce08c917dae06b917d80001217d60001217d40001217d25f41217d0dc2c917cedc0b917cce04c9,
  0x17f27cc1217f0dc2c917eedc0b917ece0cc917eae0ab917e80001217e60001217e40001217e263a1217e0dc2c9,
  0x1806e14c91804e12b918025fa121800dc2c917fedc0b917fce10c917fae0eb917f80001217f60001217f400012,
  0x15ece1e1215ece1c1215ece1a1218100001215ece181215ece1612180e60412180c00072180adc2c91808dc0b9,
  0x181a0001218180001218160001218140001215ece281215ece261218120001215ece241215ece221215ece2012,
  0x182ae30121828db2121826000151824000151822e2e12182000012181e0001215ece2c1215ece2a12181c00012,
  0x183ae3e121838dbc121836e3c12183400012183200012182ee3a121830e38121830e3612182ee3412182ce3212,
  0x184a000121848000121846e4c121844e4a121842e4812184000012183ee4612183ce44121838e4212183ae4012,
  0x185ee3a12185ce3812185ae38121858e3a121856e3a121854e38121852000121850e5012184e00015184ce4e12,
  0x1872e58121870e5612186e00012186c00012186a000151868e54121866e5212186400012186200012186000012,
  0x1886de8121884000121882e5a12188000015187ee4212187ce4012187ae42121878e4012187600012187400012,
  0x1898000121896000121894e6412189200015189000012188e00015188ce6212188ce6012188ae5e221888e5c12,
  0x18aae561218a80001218a60001518a40001518a40001518a20001518a000015189ee6a12189ce6812189ae6612,
  0x18bce7012188ae6e2218bae5c1218b8e6c1218b60001218b40001218b20001218b00001218aede81218ac00015,
  0x18d0e781218ce0001218cc0001518cae761218c8e6a1218c6e741218c4e721218c2e641218c00001518bee6212,
  0x18dce7a12183cdda1218da000a818d8e6c1218d60001218d20001518d20001518d20001518d40001518d200015,
  0x18e20001518e20001518e20001518e40001518e40001518e20001518e20001518e20001518e00001518dee7a12,
  0x18e8e7a1218e60002218e20001518e20001518e20001518e20001518e20001518e20001518e20001518e200015]

/-- The tens of states 448 to 511. -/
def states7 : Array Nat := #[
  0x18ec0001518ec0001518ec0001518ee0001518ee0001518ec0001518ec0001518ec0001518ec0001518ea00015,
  0x18ec0001518ec0001518ec0001518ec0001518ec0001518ec0001518ec0001518ec0001518ec0001518ec00015,
  0x18ec0001518ec0001518ec0001518ec0001518ec0001518ec0001518ec0001518ec0001518ec0001518ec00015,
  0x18ec0001518ec0001518ec0001518ec0001518ec0001518ec0001518ec0001518ec0001518ec0001518ec00015,
  0x18f00001518f00001518f00001518ec0001518ec0001518ec0001518ec0001518ec0001518ec0001518ec00015,
  0x18f00001518f00001518f00001518f00001518f00001518f00001518f00001518f20001518f20001518f000015,
  0x18f00001518f00001518f00001518f00001518f00001518f00001518f00001518f00001518f00001518f000015,
  0x18f00001518f00001518f00001518f00001518f00001518f00001518f00001518f00001518f00001518f000015,
  0x18f00001518f00001518f00001518f00001518f00001518f00001518f00001518f00001518f00001518f000015,
  0x18f00001518f00001518f00001518f00001518f00001518f00001518f00001518f00001518f00001518f000015,
  0x18f00001518f00001518f00001518f00001518f00001518f00001518f00001518f00001518f00001518f000015,
  0x18f00001518f00001518f00001518f00001518f00001518f00001518f00001518f00001518f00001518f000015,
  0x18f00001518f00001518f00001518f00001518f00001518f00001518f00001518f00001518f00001518f000015,
  0x18f40001518f00001518f00001518f00001518f00001518f00001518f00001518f00001518f00001518f000015,
  0x18f40001518f40001518f40001518f40001518f40001518f40001518f60001518f40001518f40001518f400015,
  0x18f40001518f40001518f40001518f40001518f40001518f40001518f40001518f40001518f40001518f400015,
  0x18f40001518f40001518f40001518f40001518f40001518f40001518f40001518f40001518f40001518f400015,
  0x18f40001518f40001518f40001518f40001518f40001518f40001518f40001518f40001518f40001518f400015,
  0x18f40001518f40001518f40001518f40001518f40001518f40001518f40001518f40001518f40001518f400015,
  0x18f40001518f40001518f40001518f40001518f40001518f40001518f40001518f40001518f40001518f400015,
  0x18f40001518f40001518f40001518f40001518f40001518f40001518f40001518f40001518f40001518f400015,
  0x18f40001518f40001518f40001518f40001518f40001518f40001518f40001518f40001518f40001518f400015,
  0x18f40001518f40001518f40001518f40001518f40001518f40001518f40001518f40001518f40001518f400015,
  0x18f40001518f40001518f40001518f40001518f40001518f40001518f40001518f40001518f40001518f400015,
  0x18f40001518f40001518f40001518f40001518f40001518f40001518f40001518f40001518f40001518f400015,
  0x18f80001518f80001518f80001518f80001518f80001518f80001518f80001518f40001518f40001518f400015,
  0x18f80001518f80001518f80001518f80001518f80001518f80001518f80001518f80001518f80001518f800015,
  0x18f80001518f80001518f80001518f80001518f80001518f80001518f80001518f80001518f80001518f800015,
  0x18f80001518f80001518f80001518f80001518f80001518f80001518f80001518f80001518f80001518f800015,
  0x18f80001518f80001518f80001518f80001518f80001518f80001518f80001518f80001518f80001518f800015,
  0x18f80001518f80001518f80001518f80001518f80001518f80001518f80001518f80001518f80001518f800015,
  0x18f80001518f80001518f80001518f80001518f80001518f80001518f80001518f80001518f80001518f800015,
  0x18f80001518f80001518f80001518f80001518f80001518f80001518f80001518f80001518f80001518f800015,
  0x18fa0001518fa0001518fa0001518fa0001518f80001518f80001518f80001518f80001518f80001518f800015,
  0x18fa0001518fa0001518fa0001518fa0001518fa0001518fa0001518fa0001518fa0001518fa0001518fa00015,
  0x18fa0001518fa0001518fa0001518fa0001518fa0001518fa0001518fa0001518fa0001518fa0001518fa00015,
  0x18fc0001518fc0001518fc0001518fa0001518fa0001518fa0001518fa0001518fa0001518fa0001518fa00015,
  0x190ee8012190ce7e12190a000221908000221906000221904000221902e7c1219000002218fee7c1218fc00015,
  0x191a000121918e88121916e86121912e42121914e40121914e84121912dfe121910e8212190ce3a12190ee3812,
  0x192ede812192c00012192ae8a121928e42121926e40121924e56121922e38121920e3a12191ee3a12191ce3812,
  0x193ee6212193ce92121932e9022193ae6c121938000151936000151934e62121934e8e121932e8c221930e5c12,
  0x1950e9a12194ee5612194ce3812194ae38121948e98121946e96121944e38121944e94121942e7a121940e7a12,
  0x1962e62121960e6c12195e00012195c00012195a000121958000121956e62121956e9c121954de812195200012,
  0x1974ea6121972ea4121970e6212196ee6c12196ce6212196cea212196ade8121968000121966ea0121964e9e12,
  0x1986e62121984e6c12198200012198000012197e00012197c00012197ae6212197aea8121978de812197600012,
  0x1994eb0121828df8121992eae121990e6212198ee6212198eeac12198ce6212198ae6212198aeaa121988de812,
  0x19a60001219a40001219a2eb61219a0e4812199e00012199ce6212199a46a121998eb4121996e4812183ceb212,
  0x19b40001219b2ec21219b00001519ae0001519acec01219aaebe1219aaebc1219aaeba1219aaeb81219a800012,
  0x19c6eca1219c40001519c20001519c00001519be0001519bcec81219baec61219b80001219b6ec41219b6db212,
  0x19d60001219d40001519d20001219d068e1219ce0001219cc0001219caed21219aced01219b2ece1219c8ecc12,
  0x19caeda1219e4ed81219e20001519e00001519deed61219dc0001219b6ed41219aca701219da0001219d800012,
  0x19eeba81219b2ee81219c8ee61219c8ee41219c6ee21219ecee01219ea0001219acede1219e8edc1219e600012,
  0x19fe0001219fc0001219fa0001219d0eee1219f8eec1219f60001219f40001219f20001219f00001219b2eea12,
  0x19c6ef4121a0a0001219aca74121a080001219aca72121a06ef2121a04e54121a02000151a000001519c6ef012,
  0x1a1cef8121a1a000121a18000121a16000121a14000151a12000151a10000121a0e000151a0c0001519c8ef612,
  0x19b2f02121a2a000121a28000121a26000121a24000121a22000121a20f00121a1eefe1219c8efc1219ecefa12,
  0x19c6f0c1219ecf0a121a36f08121a340001219b2f06121a32000121a30000121a2e0001219eef04121a2c00012,
  0x19c6f14121a3e0001219aca78121a3e0001219aca76121a06f12121a3cf10121a06f0e121a3a000121a3800012,
  0x1a4c000121a4a000121a48000151a46000121a44000121a42000121a400001519c6f1a1219c8f181219c8f1612,
  0x19ecf26121a54000121a36f24121a52000121a50000121a4e000121a20f22121a1ef20121a1cf1e121a1cf1c12,
  0x19c6f301219c8f2e1219aca7c121a580001219aca7a121a58000121a06f2c121a3cf2a121a56000121a36f2812,
  0x1a66000121a36f36121a64000121a620001219acf34121a1cf32121a60000121a5e000151a5c000121a5a00012,
  0x19aca86121a6a0001219aca84121a680001219aca82121a680001219acf381219aca80121a660001219aca7e12,
  0x1a76f3a121a74000151a72000151a70000151a6e000121a6c0001219aca8a121a6c0001219aca88121a6a00012]

/-- The tens of states 512 to 557. -/
def states8 : Array Nat := #[
  0x1a7af44121a84af2121a82000151a8064c121a7e000121a7c000121a7af42121a3cf40121a78f3e121a1cf3c12,
  0x1a1cf52121a80f50121a8cf4e121a8a000121a88000121a86000121a78f4c121a78f4a121a1cf481219c6f4612,
  0x19c8f5e121a78f5c1219c6f5a121a78f58121a1cf56121a84b06121a84b00121a06f54121a90000151a8e00015,
  0x1a06f68121a06f66121a1cf641219c6f62121a06f60121a9a000121a98000121a96000121a94000121a9200012,
  0x1a06f781219c6f76121a06f741219c8f72121a1cf70121a78f6e121a78f6c121a1cf6a121a84b0e121a84b0c12,
  0x1a84b30121a84b2e121a84b28121a84b26121a06f80121a1cf7e121a78f7c121a84b1c121a84b1a121a06f7a12,
  0x19c8f881219c6f86121aa0000121a9e000121a9c0001219c6f84121a20f82121a84b3a121a84b38121a84b3612,
  0x1aae000121aac0001219c6f8e1219c8f8c1219c6f8a121aaa000121aa8000121aa6000121aa4000121aa200012,
  0x1ac2000121ac0000121abe000121abc000121aba000121ab8000121ab6000121ab4000121ab2000121ab000012,
  0x19b6df81219aaf941219aaf921219aaf90121ace000121acc000121aca000121ac8000121ac6000121ac400012,
  0x19b2fa8121a3cfa6121a3cfa41219b2fa21219b2fa0121ad0f9e1219b2f9c1219b2f9a1219b2f981219bcf9612,
  0x19b2fba121ad20001219b2fb81219b2fb61219b2fb41219b2fb21219b2fb01219b2fae1219b2fac1219b2faa12,
  0x1ad8000121ad6000da19b2fc81219b2fc61219b2fc41219b2fc21219b2fc01219b2fbe1219b2fbc121ad400012,
  0x1aec000121aea000121ae8000121ae6000121ae4000121ae2000121ae0000121ade000121adc000121ada00012,
  0x1b00000121afe000121afc000121afa000121af8000121af6000121af4000121af2000121af0000121aee00012,
  0x1b14000121b12000121b10000121b0e000121b0c000121b0a000121b08000e21b06000121b04000121b0200012,
  0x1b28000121b26000121b24000121b22000121b20000121b1e000121b1c000121b1a000121b18000121b1600012,
  0x1b3c000121b3a000121b38000121b36000121b34000121b32000121b30000121b2e000121b2c000121b2a00012,
  0x1b50000121b4e000121b4c000121b4a000121b48000121b46000121b44000121b42000121b40000121b3e00012,
  0x1b64000121b62000121b60000121b5e000121b5c000121b5a000121b58000121b56000121b54000121b5200012,
  0x1b78000121b76000121b74000121b72000121b70000121b6e000121b6c000121b6a000121b68000121b6600012,
  0x1b8c000121b8a000121b88000121b86000121b84000121b82000121b80000121b7e000121b7c000121b7a00012,
  0x1ba0000121b9e000121b9c000121b9a000121b98000121b96000121b94000121b92000121b90000121b8e00012,
  0x1bb4000121bb2000121bb0000121bae000121bac000121baa000121ba8000121ba6000121ba4000121ba200012,
  0x1bc8000121bc6000121bc4000121bc2000121bc0000121bbe000121bbc000121bba000121bb8000121bb600012,
  0x1bdc000121bda000121bd8000121bd6000121bd4000121bd2000121bd0000121bce000121bcc000121bca000e2,
  0x1bf0000121bee000121bec000121bea000121be8000121be6000121be4000121be2000121be0000121bde00012,
  0x1c04000121c02000121c00000121bfe000121bfc000121bfa000121bf8000121bf6000121bf4000e21bf200012,
  0x1c18000121c16000121c14000121c12000121c10000121c0e000121c0c000121c0a000121c08000121c0600012,
  0x1c2c000121c2a000e21c28000121c26000121c24000121c22000121c20000121c1e000121c1c000121c1a00012,
  0x1c40000121c3e000121c3c000121c3a000121c38000121c36000121c34000121c32000121c30000121c2e00012,
  0x1c54000121c52000121c50000121c4e000121c4c000121c4a000e21c48000121c46000121c44000121c4200012,
  0x1c68000121c66000121c64000121c62000121c60000121c5e000121c5c000121c5a000121c58000121c5600012,
  0x1c7c000121c7a000121c78000121c76000121c74000121c72000121c70000121c6e000121c6c000121c6a00012,
  0x1c90000121c8e000121c8c000121c8a000121c88000121c86000121c84000121c82000121c80000da1c7e00012,
  0x1ca4000121ca2000121ca0000121c9e000121c9c000121c9a000121c98000121c96000121c94000121c9200012,
  0x1cb8000da1cb6000121cb4000121cb2000121cb0000121cae000121cac000121caa000121ca8000121ca600012,
  0x1ccc000121cca000121cc8000da1cc6000121cc4000121cc2000121cc0000121cbe000121cbc000121cba00012,
  0x1ce0000121cde000121cdc000121cda000121cd8000da1cd6000121cd4000121cd2000121cd0000121cce00012,
  0x1cf4000121cf2000121cf0000121cee000121cec000121cea000121ce8000121ce6000121ce4000121ce200012,
  0x1d08000121d06000121d04000121d02000121d00000121cfe000121cfc000121cfa000121cf8000121cf600012,
  0x1d1c000121d1a000121d18000121d16000121d14000121d12000121d10000121d0e000121d0c000121d0a00012,
  0x1d30000121d2e000121d2c000121d2a000121d28000121d26000121d24000121d22000121d20000121d1e00012,
  0x1d44000121d42000121d40000121d3e000121d3c000121d3a000121d38000121d36000121d34000121d3200012,
  0x1d58000121d56000121d54000121d52000121d50000121d4e000121d4c000121d4a000121d48000121d4600012,
  0x1d62000121d60000121d5e000121d5c000121d5a00012]

/-- The tens of states by their numbers. -/
def states : Array (Array Nat) := #[
  states0, states1, states2, states3, states4, states5, states6, states7, states8]

end UiHarness.Syntax.Automaton.Plain
