/-!
# Actions in the states for plain source

Each number is a list of pairs of twenty-eight bits: the lower ten are the number of a set of tokens,
the others an action for these tokens.
-/

namespace UiHarness.Syntax.Automaton.Plain

/-- The rows of actions 0 to 63. -/
def rows0 : Array Nat := #[
  0x2c010000c00,
  0x2908433290643229044310926430057e42f0a1e42e1d6042d100042c290242b0a1c42a0ffe4291c3a42820f242720f04260316425078a4242900423031442200c04211a6842005a841f18b041e01a241d014841c027241b024e41a26b8419220a418220841726b6416003e41526b4414031241306184120184411220641026b240f26b040e1a1040d092440c1a6640b26ae40a15ec40903104080008407092240609e24050568404001c40300008020000c00,
  0xaae44d161644c293a44b07be44a293844909e644801624470c9e4460e9e445104244401f24430472442032244102d4440022a43f09b443e07bc43d002383c044a43b002383b000383a035843907b843807b6437047243600028360002835162643429364311d6042d0e7c42c2ae642b09ac42a1a1842821a842721a642603e24250002825078a4242aaa4230002823047842200c64211c1042005a041f18de41e004c41d015841c0474413009c411163040d21d840908e640709164060000c00,
  0xaae44d161644c293a44b07be44a293844909e644801624470c9e4460e9e445104244401f244304724420322441029e440022a43f09b443e07bc43d002383c000283c036c43b002383b000383a035843907b843807b6437047243600028360002835162643429364311d6042d0e7c42c2ae642b09ac42a1a1842821a842721a642603e24250002825078a4242aaa4230002823047842200c64211c1042005a041f18de41e004c41d015841c0474413009c411163040d21d840908e640709164060000c00,
  0x59245505904540574453056c4520ffe4511004450018e44f0bb844e096444805724470320441153a4342908433290643229044310902430056242f1d6042d100042c1d6442b096242a1c3a42820f242720f04260316425078a4242900423031442200904211a68420055c41f18b041e01a841d014841c027241b024e41a26b8419220a418220841726b6416003e41526b4414031241306184120184411220641026b240f26b040e1a1040d090040c1a6640b26ae40a15ec4090310408000840708fe406093a405031e4040000c00,
  0x59245505904540574453056c4520ffe45110044500eac44f0bb844e096444805724470320441153a4342908433290643229044310902430056242f1d6042d100042c1d6442b096242a1c3a42820f242720f04260316425078a4242900423031442200904211a68420055c41f18b041e01a841d014841c027241b024e41a26b8419220a418220841726b6416003e41526b4414031241306184120184411220641026b240f26b040e1a1040d090040c1a6640b26ae40a15ec4090310408000840708fe406093a405031e4040000c00,
  0x59245505904540574453056c4520ffe45110044500f8e44f0bb844e096444805724470320441153a4342908433290643229044310902430056242f1d6042d100042c1d6442b096242a1c3a42820f242720f04260316425078a4242900423031442200904211a68420055c41f18b041e01a841d014841c027241b024e41a26b8419220a418220841726b6416003e41526b4414031241306184120184411220641026b240f26b040e1a1040d090040c1a6640b26ae40a15ec4090310408000840708fe406093a405031e4040000c00,
  0x59845505964540578453056e4520ffe45110044500bc244f0bb844e097a44805764470320441153a434290843329064322904431090e430056442f1d6042d100042c1d6442b097842a1c3a42820f242720f04260316425078a4242900423031442200924211a68420055e41f18b041e01a841d014841c027241b024e41a26b8419220a418220841726b6416003e41526b4414031241306184120184411220641026b240f26b040e1a1040d090c40c1a6640b26ae40a15ec40903104080008407090a4060956405039c4040000c00,
  0x59e455059c454057c45305704520ffe45110044500bc244f0bb844e0982448057a4470320441153a4342908433290643229044310914430056642f1d6042d100042c1d6442b098042a1c3a42820f242720f04260316425078a4242900423031442200944211a68420056041f18b041e01a841d014841c027241b024e41a26b8419220a418220841726b6416003e41526b4414031241306184120184411220641026b240f26b040e1a1040d091240c1a6640b26ae40a15ec409031040800084070910406095840503a44040000c00,
  0x5085629094330050833290743200508322905431005083109274300050830057f42f005082f0a1f42e005082e1d6142d005082d100142c005082c290342b005082b0a1d42a005082a0fff42900508291c3b428005082820f3427005082720f1426005082603174250050825078b4240050824290142300508230315422005082200c142100508211a69420005082005a941f005081f18b141e005081e01a341d005081d014941c005081c027341b005081b024f41a005081a26b94190050819220b41800508182209417005081726b74160050816003f415005081526b541400508140313413005081306194120050812018541100508112207410005081026b340f005080f26b140e005080e1a1140d005080d092540c005080c1a6740b005080b26af40a005080a15ed409005080903114080050808000940700508070923406005080609e34050050805056940400508040000c00,
  0x1388572908433290643229044310926430057e42f0a1e42e1d6042d100042c290242b0a1c42a0ffe4291c3a42820f242720f04260316425078a4242900423031442200c04211a6842005a841f18b041e01a241d014841c027241b024e41a26b8419220a418220841726b6416003e41526b4414031241306184120184411220641026b240f26b040e1a1040d092440c1a6640b26ae40a15ec40903104080008407092240609e240505684040000c00,
  0x1738572908433290643229044310926430057e42f0a1e42e1d6042d100042c290242b0a1c42a0ffe4291c3a42820f242720f04260316425078a4242900423031442200c04211a6842005a841f18b041e01a241d014841c027241b024e41a26b8419220a418220841726b6416003e41526b4414031241306184120184411220641026b240f26b040e1a1040d092440c1a6640b26ae40a15ec40903104080008407092240609e240505684040000c00,
  0x1748572908433290643229044310926430057e42f0a1e42e1d6042d100042c290242b0a1c42a0ffe4291c3a42820f242720f04260316425078a4242900423031442200c04211a6842005a841f18b041e01a241d014841c027241b024e41a26b8419220a418220841726b6416003e41526b4414031241306184120184411220641026b240f26b040e1a1040d092440c1a6640b26ae40a15ec40903104080008407092240609e240505684040000c00,
  0x1928572908433290643229044310926430057e42f0a1e42e1d6042d100042c290242b0a1c42a0ffe4291c3a42820f242720f04260316425078a4242900423031442200c04211a6842005a841f18b041e01a241d014841c027241b024e41a26b8419220a418220841726b6416003e41526b4414031241306184120184411220641026b240f26b040e1a1040d092440c1a6640b26ae40a15ec40903104080008407092240609e240505684040000c00,
  0x2908433290643229044310926430057e42f0a1e42e1d6042d100042c290242b0a1c42a0ffe4291c3a42820f242720f04260316425078a4242900423031442200c04211a6842005a841f18b041e01a241d014841c027241b024e41a26b8419220a418220841726b6416003e41526b4414031241306184120184411220641026b240f26b040e1a1040d092440c1a6640b26ae40a15ec40903104080008407092240609e2405056840400018020000c00,
  0x2908433290643229044310926430057e42f0a1e42e1d6042d100042c290242b0a1c42a0ffe4291c3a42820f242720f04260316425078a4242900423031442200c04211a6842005a841f18b041e01a241d014841c027241b024e41a26b8419220a418220841726b6416003e41526b4414031241306184120184411220641026b240f26b040e1a1040d092440c1a6640b26ae40a15ec40903104080008407092240609e2405056840400118020000c00,
  0x5ca44f2908433290643229044310926430057e42f0a1e42e1d6042d100042c290242b0a1c42a0ffe4291c3a42820f242720f04260316425078a4242900423031442200c04211a6842005a841f18b041e01a241d014841c027241b024e41a26b8419220a418220841726b6416003e41526b4414031241306184120184411220641026b240f26b040e1a1040d092440c1a6640b26ae40a15ec40903104080008407092240609e240505684040000c00,
  0x5cc44f2908433290643229044310926430057e42f0a1e42e1d6042d100042c290242b0a1c42a0ffe4291c3a42820f242720f04260316425078a4242900423031442200c04211a6842005a841f18b041e01a241d014841c027241b024e41a26b8419220a418220841726b6416003e41526b4414031241306184120184411220641026b240f26b040e1a1040d092440c1a6640b26ae40a15ec40903104080008407092240609e240505684040000c00,
  0xd3c44f2908433290643229044310926430057e42f0a1e42e1d6042d100042c290242b0a1c42a0ffe4291c3a42820f242720f04260316425078a4242900423031442200c04211a6842005a841f18b041e01a241d014841c027241b024e41a26b8419220a418220841726b6416003e41526b4414031241306184120184411220641026b240f26b040e1a1040d092440c1a6640b26ae40a15ec40903104080008407092240609e240505684040000c00,
  0x1cc44f2908433290643229044310926430057e42f0a1e42e1d6042d100042c290242b0a1c42a0ffe4291c3a42820f242720f04260316425078a4242900423031442200c04211a6842005a841f18b041e01a241d014841c027241b024e41a26b8419220a418220841726b6416003e41526b4414031241306184120184411220641026b240f26b040e1a1040d092440c1a6640b26ae40a15ec40903104080008407092240609e240505684040000c00,
  0x1d244f2908433290643229044310926430057e42f0a1e42e1d6042d100042c290242b0a1c42a0ffe4291c3a42820f242720f04260316425078a4242900423031442200c04211a6842005a841f18b041e01a241d014841c027241b024e41a26b8419220a418220841726b6416003e41526b4414031241306184120184411220641026b240f26b040e1a1040d092440c1a6640b26ae40a15ec40903104080008407092240609e240505684040000c00,
  0xd5044f2908433290643229044310926430057e42f0a1e42e1d6042d100042c290242b0a1c42a0ffe4291c3a42820f242720f04260316425078a4242900423031442200c04211a6842005a841f18b041e01a241d014841c027241b024e41a26b8419220a418220841726b6416003e41526b4414031241306184120184411220641026b240f26b040e1a1040d092440c1a6640b26ae40a15ec40903104080008407092240609e240505684040000c00,
  0xc9644f2908433290643229044310926430057e42f0a1e42e1d6042d100042c290242b0a1c42a0ffe4291c3a42820f242720f04260316425078a4242900423031442200c04211a6842005a841f18b041e01a241d014841c027241b024e41a26b8419220a418220841726b6416003e41526b4414031241306184120184411220641026b240f26b040e1a1040d092440c1a6640b26ae40a15ec40903104080008407092240609e240505684040000c00,
  0xc1244f2908433290643229044310926430057e42f0a1e42e1d6042d100042c290242b0a1c42a0ffe4291c3a42820f242720f04260316425078a4242900423031442200c04211a6842005a841f18b041e01a241d014841c027241b024e41a26b8419220a418220841726b6416003e41526b4414031241306184120184411220641026b240f26b040e1a1040d092440c1a6640b26ae40a15ec40903104080008407092240609e240505684040000c00,
  0x145244f2908433290643229044310926430057e42f0a1e42e1d6042d100042c290242b0a1c42a0ffe4291c3a42820f242720f04260316425078a4242900423031442200c04211a6842005a841f18b041e01a241d014841c027241b024e41a26b8419220a418220841726b6416003e41526b4414031241306184120184411220641026b240f26b040e1a1040d092440c1a6640b26ae40a15ec40903104080008407092240609e240505684040000c00,
  0x145444f2908433290643229044310926430057e42f0a1e42e1d6042d100042c290242b0a1c42a0ffe4291c3a42820f242720f04260316425078a4242900423031442200c04211a6842005a841f18b041e01a241d014841c027241b024e41a26b8419220a418220841726b6416003e41526b4414031241306184120184411220641026b240f26b040e1a1040d092440c1a6640b26ae40a15ec40903104080008407092240609e240505684040000c00,
  0x146044f2908433290643229044310926430057e42f0a1e42e1d6042d100042c290242b0a1c42a0ffe4291c3a42820f242720f04260316425078a4242900423031442200c04211a6842005a841f18b041e01a241d014841c027241b024e41a26b8419220a418220841726b6416003e41526b4414031241306184120184411220641026b240f26b040e1a1040d092440c1a6640b26ae40a15ec40903104080008407092240609e240505684040000c00,
  0x5e644f2908433290643229044310926430057e42f0a1e42e1d6042d100042c290242b0a1c42a0ffe4291c3a42820f242720f04260316425078a4242900423031442200c04211a6842005a841f18b041e01a241d014841c027241b024e41a26b8419220a418220841726b6416003e41526b4414031241306184120184411220641026b240f26b040e1a1040d092440c1a6640b26ae40a15ec40903104080008407092240609e240505684040000c00,
  0x145844f2908433290643229044310926430057e42f0a1e42e1d6042d100042c290242b0a1c42a0ffe4291c3a42820f242720f04260316425078a4242900423031442200c04211a6842005a841f18b041e01a241d014841c027241b024e41a26b8419220a418220841726b6416003e41526b4414031241306184120184411220641026b240f26b040e1a1040d092440c1a6640b26ae40a15ec40903104080008407092240609e240505684040000c00,
  0x5ea44f2908433290643229044310926430057e42f0a1e42e1d6042d100042c290242b0a1c42a0ffe4291c3a42820f242720f04260316425078a4242900423031442200c04211a6842005a841f18b041e01a241d014841c027241b024e41a26b8419220a418220841726b6416003e41526b4414031241306184120184411220641026b240f26b040e1a1040d092440c1a6640b26ae40a15ec40903104080008407092240609e240505684040000c00,
  0x2908433290643229044310934430058442f0a5c42e1d6042d100042c290242b0a5a42a0ffe4291c3a42820f242720f04260316425078a4242900423031442200ce4211c2842005b241f18e441e01a241d014841c027241b024e41a26b8419220a418220841726b6416003e41528c4414031241306184120184411269241026b240f28c240e1a1040d093240c1a6640b28c040a15ec4090310408000a40709304060a04405056a4040000c00,
  0x2908433290643229044310926430057e42f0a1e42e1d6042d100042c290242b0a1c42a0ffe4291c3a42820f242720f04260316425078a4242900423031442200c04211a6842005a841f18b041e01a241d014841c027241b024e41a26b8419220a418220841726b6416003e41526b4414031241306184120184411220641026b240f26b040e1a1040d092440c1a6640b26ae40a15ec40903104080008407092240609e240505684040000c00,
  0xe9c459041245801ee44e0aae44d161644c293a44b08d444a2b824490a4c448016a4470c9e4461244445104244401e84430132441023643f0a9a43e08d243d03a843908ce43808cc43716264342b8c4311d6042d113042c2ad442b098e42a1a1842821a842721a64260546425078a4242aaa423041842200f44211c1042005c441f18de41e008641d014641c0414413009c411163040d21d840908f240709604060000c00,
  0xdfe459041245801ee44e0aae44d161644c293a44b08d444a2b824490a4c448016a4470c9e4461244445104244401e84430132441023643f0a9a43e08d243d03a843908ce43808cc43716264342b8c4311d6042d113042c2ad442b098e42a1a1842821a842721a64260546425078a4242aaa423041842200f44211c1042005c441f18de41e008641d014641c0414413009c411163040d21d840908f240709604060000c00,
  0xbf4459041245801ee44e0aae44d161644c293a44b08d444a2b824490a4c448016a4470c9e4461244445104244401e84430132441023643f0a9a43e08d243d03a843908ce43808cc43716264342b8c4311d6042d113042c2ad442b098e42a1a1842821a842721a64260546425078a4242aaa423041842200f44211c1042005c441f18de41e008641d014641c0414413009c411163040d21d840908f240709604060000c00,
  0xf9a459041245801ee44e0aae44d161644c293a44b08d444a2b824490a4c448016a4470c9e4461244445104244401e84430132441023643f0a9a43e08d243d03a843908ce43808cc43716264342b8c4311d6042d113042c2ad442b098e42a1a1842821a842721a64260546425078a4242aaa423041842200f44211c1042005c441f18de41e008641d014641c0414413009c411163040d21d840908f240709604060000c00,
  0xfa8459041245801ee44e0aae44d161644c293a44b08d444a2b824490a4c448016a4470c9e4461244445104244401e84430132441023643f0a9a43e08d243d03a843908ce43808cc43716264342b8c4311d6042d113042c2ad442b098e42a1a1842821a842721a64260546425078a4242aaa423041842200f44211c1042005c441f18de41e008641d014641c0414413009c411163040d21d840908f240709604060000c00,
  0xfb2459041245801ee44e0aae44d161644c293a44b08d444a2b824490a4c448016a4470c9e4461244445104244401e84430132441023643f0a9a43e08d243d03a843908ce43808cc43716264342b8c4311d6042d113042c2ad442b098e42a1a1842821a842721a64260546425078a4242aaa423041842200f44211c1042005c441f18de41e008641d014641c0414413009c411163040d21d840908f240709604060000c00,
  0x1170459041245801ee44e0aae44d161644c293a44b08d444a2b824490a4c448016a4470c9e4461244445104244401e84430132441023643f0a9a43e08d243d03a843908ce43808cc43716264342b8c4311d6042d113042c2ad442b098e42a1a1842821a842721a64260546425078a4242aaa423041842200f44211c1042005c441f18de41e008641d014641c0414413009c411163040d21d840908f240709604060000c00,
  0x1174459041245801ee44e0aae44d161644c293a44b08d444a2b824490a4c448016a4470c9e4461244445104244401e84430132441023643f0a9a43e08d243d03a843908ce43808cc43716264342b8c4311d6042d113042c2ad442b098e42a1a1842821a842721a64260546425078a4242aaa423041842200f44211c1042005c441f18de41e008641d014641c0414413009c411163040d21d840908f240709604060000c00,
  0x1264459041245801ee44e0aae44d161644c293a44b08d444a2b824490a4c448016a4470c9e4461244445104244401e84430132441023643f0a9a43e08d243d03a843908ce43808cc43716264342b8c4311d6042d113042c2ad442b098e42a1a1842821a842721a64260546425078a4242aaa423041842200f44211c1042005c441f18de41e008641d014641c0414413009c411163040d21d840908f240709604060000c00,
  0xe10459041245801ee44e0aae44d161644c293a44b08d444a2b824490a4c448016a4470c9e4461244445104244401e84430132441023643f0a9a43e08d243d03a843908ce43808cc43716264342b8c4311d6042d113042c2ad442b098e42a1a1842821a842721a64260546425078a4242aaa423041842200f44211c1042005c441f18de41e008641d014641c0414413009c411163040d21d840908f240709604060000c00,
  0xa4645d004045c001585c292e45b000285a0e6c44f0274440001583d034a43b000383a1d6042d0fba42c2ae642b0a5842a0ffe4291c3a42820f242720f042603e2425078a4242900423047842200ca4211a7042005b041f18b241e01a241d015841c0474413018441120f640904724080b9a407092e4060000c00,
  0xa4645d004045c001585c292e45b000285a0d0a44f0274440001583d034a43b000383a1d6042d0fba42c2ae642b0a5842a0ffe4291c3a42820f242720f042603e2425078a4242900423047842200ca4211a7042005b041f18b241e01a241d015841c0474413018441120f640904724080b9a407092e4060000c00,
  0xa4645d004045c001585c292e45b000285a0d3844f0274440001583d034a43b000383a1d6042d0fba42c2ae642b0a5842a0ffe4291c3a42820f242720f042603e2425078a4242900423047842200ca4211a7042005b041f18b241e01a241d015841c0474413018441120f640904724080b9a407092e4060000c00,
  0xc9e4610472460047245f000285f000285e09b445d102a4450322441029e440002383d002383c000283c036c43b002383b000383a1d6042d0dea42c2ae642b09b642a1ce6428000282821a842721a642603e24250002825078a42400028242aaa4230002823047842200ae4211c1042005a041f18de41e01de41d000281d015841c04744130186411000281121d84090ba240709164060000c00,
  0x238620c9e4610472460047245f000285f000285e09b445d1066445032244102d4440044a43b002383b000383a1d6042d0dea42c2ae642b09b642a1ce6428000282821a842721a642603e24250002825078a42400028242aaa4230002823047842200ae4211c1042005a041f18de41e01de41d000281d015841c04744130186411000281121d84090ba240709164060000c00,
  0x238620c9e4610472460047245f000285f000285e09b445d1068445032244102d4440044a43b002383b000383a1d6042d0dea42c2ae642b09b642a1ce6428000282821a842721a642603e24250002825078a42400028242aaa4230002823047842200ae4211c1042005a041f18de41e01de41d000281d015841c04744130186411000281121d84090ba240709164060000c00,
  0x221c4640a26463039845801fa45501f84540aae44d161644c293a44b07be44a293844909f444800064470c9e4460eda445115a44402024430322441023e43f07bc43d03dc43907b843807b6437162643429364311d6042d0edc42c29e042b09bc42a1a5242821a842721a64260368425078a4242aaa42303ae42200cc4211c1042005ac41f18de41e008441d014c41c039a413009c411163040d21d840908f0407092a4060000c00,
  0x238620c9e4610472460047245f000285f000285e09b445d10ae445032244102d4440044a43b002383b000383a1d6042d0dea42c2ae642b09b642a1ce6428000282821a842721a642603e24250002825078a42400028242aaa4230002823047842200ae4211c1042005a041f18de41e01de41d000281d015841c04744130186411000281121d84090ba240709164060000c00,
  0x238620c9e4610472460047245f000285f000285e09b445d10b0445032244102d4440044a43b002383b000383a1d6042d0dea42c2ae642b09b642a1ce6428000282821a842721a642603e24250002825078a42400028242aaa4230002823047842200ae4211c1042005a041f18de41e01de41d000281d015841c04744130186411000281121d84090ba240709164060000c00,
  0x238620c9e4610472460047245f000285f000285e09b445d10b4445032244102d4440044a43b002383b000383a1d6042d0dea42c2ae642b09b642a1ce6428000282821a842721a642603e24250002825078a42400028242aaa4230002823047842200ae4211c1042005a041f18de41e01de41d000281d015841c04744130186411000281121d84090ba240709164060000c00,
  0x238620c9e4610472460047245f000285f000285e09b445d10da445032244102d4440044a43b002383b000383a1d6042d0dea42c2ae642b09b642a1ce6428000282821a842721a642603e24250002825078a42400028242aaa4230002823047842200ae4211c1042005a041f18de41e01de41d000281d015841c04744130186411000281121d84090ba240709164060000c00,
  0x238620c9e4610472460047245f000285f000285e09b445d102a445032244102d4440044a43b002383b000383a1d6042d0dea42c2ae642b09b642a1ce6428000282821a842721a642603e24250002825078a42400028242aaa4230002823047842200ae4211c1042005a041f18de41e01de41d000281d015841c04744130186411000281121d84090ba240709164060000c00,
  0x221c46409b44630472458020045501fe4540aae44d161644c293a44b07be44a293844909e644800044470c9e4460e7a445104244401f24430322441022a43f07bc43d035843907b843807b6437162643429364311d6042d0e7c42c2ae642b09ac42a1a1842821a842721a642603e2425078a4242aaa423047842200c64211c1042005a041f18de41e004c41d015841c0474413009c411163040d21d840908e640709164060000c00,
  0x2386600028650b3a45d29f045b02d4440044a43b002383b000383a1d6042d0c9842c2ae642b0b5442a0c9e4291ce642821a842721a642603e2425078a4242aaa423047842201224211c10420060e41f18de41e01da41d015841c0474413018641121d840904724080b9e40709d64060000c00,
  0x6186600028650b3a45d29f045b02d4440044a43b000383a1d6042d0c9842c2ae642b0b5442a0c9e4291ce642821a842721a642603e2425078a4242aaa423047842201224211c10420060e41f18de41e01da41d015841c0474413018641121d840904724080b9e40709d64060000c00,
  0x28670a0c45d29f045b02bc44003e643b000383a1d6042d0c9842c2ae642b0a1a42a0c9e4291ce642821a842721a642603e2425078a4242aaa423047842200be4211c1042005a641f18de41e01dc41d015841c0474413018641121d840904724080ba040709204060000c00,
  0x28670b3a45d29f045b02bc440044a43b000383a1d6042d0c9842c2ae642b0b5442a0c9e4291ce642821a842721a642603e2425078a4242aaa423047842201224211c10420060e41f18de41e01da41d015841c0474413018641121d840904724080b9e40709d64060000c00,
  0xa4645d004045c292e45b000285a0274440031c43b000383a1d6042d0fba42c2ae642b0a5842a0ffe4291c3a42820f242720f042603e2425078a4242900423047842200ca4211a7042005b041f18b241e01a241d015841c0474413018441120f640904724080b9a407092e4060000c00,
  0x28680a4645d292e45b0274440031c43b000383a1d6042d0fba42c2ae642b0a5842a0ffe4291c3a42820f242720f042603e2425078a4242900423047842200ca4211a7042005b041f18b241e01a241d015841c0474413018441120f640904724080b9a407092e4060000c00,
  0x28650a9445d29f045b029e440002383d002383c000283c036c43b002383b000383a1d6042d0c9842c2ae642b0aa042a0c9e4291ce642821a842721a642603e2425078a4242aaa423047842200e24211c1042005be41f18de41e01dc41d015841c0474413018641121d840904724080ba0407095a4060000c00,
  0x286500238620b3a45d29f045b02d4440044a43b002383b000383a1d6042d0c9842c2ae642b0b5442a0c9e4291ce642821a842721a642603e2425078a4242aaa423047842201224211c10420060e41f18de41e01da41d015841c0474413018641121d840904724080b9e40709d64060000c00,
  0x28680b3a45d292e45b0274440044a43b000383a1d6042d0c9842c2ae642b0b5442a0c9e4291ce642821a842721a642603e2425078a4242aaa423047842201224211c10420060e41f18de41e01da41d015841c0474413018641121d840904724080b9e40709d64060000c00]

/-- The rows of actions 64 to 127. -/
def rows1 : Array Nat := #[
  0xa4645d006045c292e45b000285a0274440031c43b000383a1d6042d0fba42c2ae642b0a5842a0ffe4291c3a42820f242720f042603e2425078a4242900423047842200ca4211a7042005b041f18b241e01a241d015841c0474413018441120f640904724080b9a407092e4060000c00,
  0x28690a6045d292e45b02c8440041c43b000383a1d6042d0fba42c2ae642b0a6642a0ffe4291c3a42820f242720f042603e2425078a4242af2423047842200d44211a7042005b641f18b241e01a241d015841c0474413018441120f640904724080b9a40709384060000c00,
  0x28690b3a45d292e45b02c8440044a43b000383a1d6042d0c9842c2ae642b0b5442a0c9e4291ce642821a842721a642603e2425078a4242aaa423047842201224211c10420060e41f18de41e01da41d015841c0474413018641121d840904724080b9e40709d64060000c00,
  0x6186a000286a00028650a0c45d29f045b02bc44003e643b000383a1d6042d0c9842c2ae642b0a1a42a0c9e4291ce642821a842721a642603e2425078a4242aaa423047842200be4211c1042005a641f18de41e01dc41d015841c0474413018641121d840904724080ba040709204060000c00,
  0x28e46d028e46c000286c000286b0a0c45d29f045b02bc44003e643b000383a1d6042d0c9842c2ae642b0a1a42a0c9e4291ce642821a842721a642603e2425078a4242aaa423047842200be4211c1042005a641f18de41e01dc41d015841c0474413018641121d840904724080ba040709204060000c00,
  0x28650ae445d07e245c29f045b00238590002859002384e02f844004e243b002383b000383a1d6042d0c9842c2ae642b0af842a0c9e4291ce642821a842721a642603e2425078a4242aaa4230478422010c4211c1042005f241f18de41e01dc41d015841c0474413018641121d840904724080ba0407099e4060000c00,
  0x286e0a9445d29f045b029e440036c43b000383a1d6042d0c9842c2ae642b0aa042a0c9e4291ce642821a842721a642603e2425078a4242aaa423047842200e24211c1042005be41f18de41e01dc41d015841c0474413018641121d840904724080ba0407095a4060000c00,
  0x6186f000286f00028650a0c45d006185c29f045b02bc44003e643b000383a1d6042d0c9842c2ae642b0a1a42a0c9e4291ce642821a842721a642603e2425078a4242aaa423047842200be4211c1042005a641f18de41e01dc41d015841c0474413018641121d840904724080ba040709204060000c00,
  0x286e0b3a45d29f045b029e440044a43b000383a1d6042d0c9842c2ae642b0b5442a0c9e4291ce642821a842721a642603e2425078a4242aaa423047842201224211c10420060e41f18de41e01da41d015841c0474413018641121d840904724080b9e40709d64060000c00,
  0x2386a000286a00028650a0c45d29f045b02bc44003e643b002383b000383a1d6042d0c9842c2ae642b0a1a42a0c9e4291ce642821a842721a642603e2425078a4242aaa423047842200be4211c1042005a641f18de41e01dc41d015841c0474413018641121d840904724080ba040709204060000c00,
  0x28700ae445d07e245c29f045b02f844004e243b000383a1d6042d0c9842c2ae642b0af842a0c9e4291ce642821a842721a642603e2425078a4242aaa4230478422010c4211c1042005f241f18de41e01dc41d015841c0474413018641121d840904724080ba0407099e4060000c00,
  0x28700ae445d07f645c29f045b02f844004e243b000383a1d6042d0c9842c2ae642b0af842a0c9e4291ce642821a842721a642603e2425078a4242aaa4230478422010c4211c1042005f241f18de41e01dc41d015841c0474413018641121d840904724080ba0407099e4060000c00,
  0x28650ae445d29f045b00238590002859002384e02f844004e243b002383b000383a1d6042d0c9842c2ae642b0af842a0c9e4291ce642821a842721a642603e2425078a4242aaa4230478422010c4211c1042005f241f18de41e01dc41d015841c0474413018641121d840904724080ba0407099e4060000c00,
  0x23871000287100028650a0c45d29f045b02bc44003e643b002383b000383a1d6042d0c9842c2ae642b0a1a42a0c9e4291ce642821a842721a642603e2425078a4242aaa423047842200be4211c1042005a641f18de41e01dc41d015841c0474413018641121d840904724080ba040709204060000c00,
  0x28720ad245d292e45b02aa44003b443b000383a1d6042d0fba42c2ae642b0ad442a0ffe4291c3a42820f242720f042603e2425078a4242900423047842200f24211a7042005d641f18b241e01a241d015841c0474413018441120f640904724080b9a40709864060000c00,
  0x28720b3a45d292e45b02aa440044a43b000383a1d6042d0c9842c2ae642b0b5442a0c9e4291ce642821a842721a642603e2425078a4242aaa423047842201224211c10420060e41f18de41e01da41d015841c0474413018641121d840904724080b9e40709d64060000c00,
  0x2386f000286f00028650a0c45d29f045b02bc44003e643b002383b000383a1d6042d0c9842c2ae642b0a1a42a0c9e4291ce642821a842721a642603e2425078a4242aaa423047842200be4211c1042005a641f18de41e01dc41d015841c0474413018641121d840904724080ba040709204060000c00,
  0x28730a9845d29f045b02e0440047e43b000383a1d6042d0c9842c2ae642b0aac42a0c9e4291ce642821a842721a642603e2425078a4242ae2423047842200fa4211c1042005c241f18de41e01dc41d015841c0474413018641121d840904724080ba0407095e4060000c00,
  0x28730b3a45d29f045b02e0440044a43b000383a1d6042d0c9842c2ae642b0b5442a0c9e4291ce642821a842721a642603e2425078a4242aaa423047842201224211c10420060e41f18de41e01da41d015841c0474413018641121d840904724080b9e40709d64060000c00,
  0x28650b3a45d006185c29f045b02d4440044a43b000383a1d6042d0c9842c2ae642b0b5442a0c9e4291ce642821a842721a642603e2425078a4242aaa423047842201224211c10420060e41f18de41e01da41d015841c0474413018641121d840904724080b9e40709d64060000c00,
  0x2874028e46d028e46c000286c0b3a45d29f045b02d4440044a43b000383a1d6042d0c9842c2ae642b0b5442a0c9e4291ce642821a842721a642603e2425078a4242aaa423047842201224211c10420060e41f18de41e01da41d015841c0474413018641121d840904724080b9e40709d64060000c00,
  0x28750ae245d29f045b02ec44004b043b000383a1d6042d0c9842c2ae642b0af642a0c9e4291ce642821a842721a642603e2425078a4242aaa4230478422010a4211c1042005f041f18de41e01dc41d015841c0474413018641121d840904724080ba0407099c4060000c00,
  0x28700ae445d29f045b02f844004e243b000383a1d6042d0c9842c2ae642b0af842a0c9e4291ce642821a842721a642603e2425078a4242aaa4230478422010c4211c1042005f241f18de41e01dc41d015841c0474413018641121d840904724080ba0407099e4060000c00,
  0x28760ae845d29f045b0304440051243b000383a1d6042d0c9842c2ae642b0afc42a0c9e4291ce642821a842721a642603e2425078a4242b02423047842201104211c1042005f641f18de41e01da41d015841c0474413018641121d840904724080b9e40709a24060000c00,
  0x28750b3a45d29f045b02ec440044a43b000383a1d6042d0c9842c2ae642b0b5442a0c9e4291ce642821a842721a642603e2425078a4242aaa423047842201224211c10420060e41f18de41e01da41d015841c0474413018641121d840904724080b9e40709d64060000c00,
  0x28700b3a45d29f045b02f8440044a43b000383a1d6042d0c9842c2ae642b0b5442a0c9e4291ce642821a842721a642603e2425078a4242aaa423047842201224211c10420060e41f18de41e01da41d015841c0474413018641121d840904724080b9e40709d64060000c00,
  0x28760b3a45d29f045b0304440044a43b000383a1d6042d0c9842c2ae642b0b5442a0c9e4291ce642821a842721a642603e2425078a4242aaa423047842201224211c10420060e41f18de41e01da41d015841c0474413018641121d840904724080b9e40709d64060000c00,
  0x28650b3a45d29f045b02d4440035443b000383a1d6042d0c9842c2ae642b0b5442a0c9e4291ce642821a842721a642603e2425078a4242aaa423047842201224211c10420060e41f18de41e01da41d015841c0474413018641121d840904724080b9e40709d64060000c00,
  0x4124580ac844d17ec44c2a2444b082c44a2a2244909c0448016e4470c9e4460fb84450fb444401e64430322441023a43f0a9a43e082a43d03ac4390826438082443718284342b6e4311d6042d0e0642c2ad442b099242a1a5842820f242720f04260546425078a4242aaa423041842200ec4211c1042005c441f18de41e008e41d014641c041441300aa411183240d21d840908e840709604060000c00,
  0x28650b3a45d29f045b02d4440039043b000383a1d6042d0c9842c2ae642b0b5442a0c9e4291ce642821a842721a642603e2425078a4242aaa423047842201224211c10420060e41f18de41e01da41d015841c0474413018641121d840904724080b9e40709d64060000c00,
  0x28650b3a45d29f045b02d4440040a43b000383a1d6042d0c9842c2ae642b0b5442a0c9e4291ce642821a842721a642603e2425078a4242aaa423047842201224211c10420060e41f18de41e01da41d015841c0474413018641121d840904724080b9e40709d64060000c00,
  0x28650b3a45d29f045b02d4440044a43b000383a1d6042d0c9842c2ae642b0b5442a0c9e4291ce642821a842721a642603e2425078a4242aaa423047842201224211c10420060e41f18de41e01da41d015841c0474413018641121d840904724080b9e40709d64060000c00,
  0x28650b3a45d29f045b02d4440046a43b000383a1d6042d0c9842c2ae642b0b5442a0c9e4291ce642821a842721a642603e2425078a4242aaa423047842201224211c10420060e41f18de41e01da41d015841c0474413018641121d840904724080b9e40709d64060000c00,
  0x28650b3a45d29f045b02d4440049e43b000383a1d6042d0c9842c2ae642b0b5442a0c9e4291ce642821a842721a642603e2425078a4242aaa423047842201224211c10420060e41f18de41e01da41d015841c0474413018641121d840904724080b9e40709d64060000c00,
  0x28650b3a45d29f045b02d444004d043b000383a1d6042d0c9842c2ae642b0b5442a0c9e4291ce642821a842721a642603e2425078a4242aaa423047842201224211c10420060e41f18de41e01da41d015841c0474413018641121d840904724080b9e40709d64060000c00,
  0x28650b3a45d29f045b02d4440050243b000383a1d6042d0c9842c2ae642b0b5442a0c9e4291ce642821a842721a642603e2425078a4242aaa423047842201224211c10420060e41f18de41e01da41d015841c0474413018641121d840904724080b9e40709d64060000c00,
  0x28650b3a45d29f045b02d4440053243b000383a1d6042d0c9842c2ae642b0b5442a0c9e4291ce642821a842721a642603e2425078a4242aaa423047842201224211c10420060e41f18de41e01da41d015841c0474413018641121d840904724080b9e40709d64060000c00,
  0x28650b3a45d29f045b02d444003d843b000383a1d6042d0c9842c2ae642b0b5442a0c9e4291ce642821a842721a642603e2425078a4242aaa423047842201224211c10420060e41f18de41e01da41d015841c0474413018641121d840904724080b9e40709d64060000c00,
  0x28650b3a45d29f045b02d4440043e43b000383a1d6042d0c9842c2ae642b0b5442a0c9e4291ce642821a842721a642603e2425078a4242aaa423047842201224211c10420060e41f18de41e01da41d015841c0474413018641121d840904724080b9e40709d64060000c00,
  0x4124580aae44d161644c293a44b07be44a29384490a8e448015a4470c9e4461382445115a44401e8443024443f0a0a43e07bc43d044243907b843807b6437162643429364311d6042d125242c2ad442b0a5442a1a5242821a842721a64260546425078a4242aaa423041842200ba4211c1042005a441f18de41e008c41d014641c0414413009c411163040d21d840908fa407091e4060000c00,
  0x3104580aae44d161644c293a44b07be44a293844909ea448015c4470ffe4460e824450ed84440208443022e43f0a2243e07bc43d039443907b843807b6437162643429364311d6042d0e8442c290242b09ae42a1a4442820f242720f04260316425078a4242900423031442200c84211a7042005aa41f18b241e006c41d014841c031241300a8411163040d20f640908ea40709284060000c00,
  0x4724580aae44d161644c293a44b07be44a29384490a3e448017a4470c9e4461374445138844401f2443023843f0aec43e07bc43d03aa43907b843807b6437162643429364311d6042d109242c2ae642b09ec42a1a5442821a842721a642603e2425078a4242aaa423047842200fc4211c1042005f841f18de41e008841d015841c0474413009c411163040d21d840908f440709a44060000c00,
  0x4124580aae44d161644c293a44b07be44a29384490a4a44801644470c9e4461244445104244401e8443023643f0a2e43e07bc43d03a843907b843807b6437162643429364311d6042d111442c2ad442b09f842a1a1842821a842721a64260546425078a4242aaa423041842200e04211c1042005ae41f18de41e008641d014641c0414413009c411163040d21d840908f8407092c4060000c00,
  0x3984580aae44d161644c293a44b07be44a29384490a4844801604470c9e4460cc44450d0e4440202443023043f0a8643e07bc43d03a043907b843807b6437162643429364311d6042d110a42c29e042b09f642a1a4a42821a842721a64260368425078a4242aaa42303ae42200dc4211c1042005bc41f18de41e008041d014c41c039a413009c411163040d21d840908ec40709544060000c00,
  0x5404580aae44d161644c293a44b07be44a29384490a5244801764470ffe446125c445125a4440216443024043f0ad043e07bc43d040e43907b843807b6437162643429364311d6042d115242c2b2c42b09fe42a1a5642820f242720f04260544425078a4242900423055442200f04211a7042005d441f18b241e008a41d014e41c054241300a8411163040d20f640908f640709844060000c00,
  0x4124580aae44d161644c293a44b07be44a293844909c8448015a4470c9e4460cc44450d0e44401e8443023243f0a0a43e07bc43d041643907b843807b6437162643429364311d6042d0e5442c2ad442b099442a1a4a42821a842721a64260546425078a4242aaa423041842200ba4211c1042005a441f18de41e008041d014641c0414413009c411163040d21d840908ec407091e4060000c00,
  0x4724580aae44d161644c293a44b07be44a29384490ac044801824470c9e4461132445115044401f2443023443f0b3a43e07bc43d03a643907b843807b6437162643429364311d6042d137042c2ae642b0a8842a1a4e42821a842721a642603e2425078a4242aaa4230478422011a4211c10420060e41f18de41e008241d015841c0474413009c411163040d21d840908ee40709d64060000c00,
  0x4d64580aae44d161644c293a44b07be44a29384490aa2448017c4470c9e44611324451150444021c443024243f0ade43e07bc43d04a843907b843807b6437162643429364311d6042d12f242c2b0642b0a6a42a1a4e42821a842721a64260550425078a4242aaa42304dc42201004211c1042005ec41f18de41e008241d015441c04d8413009c411163040d21d840908fc40709984060000c00,
  0x5084580aae44d161644c293a44b07be44a29384490aa6448017e4470c9e44611324451150444021e443024843f0ae043e07bc43d04da43907b843807b6437162643429364311d6042d133042c2b1442b0a6e42a1a4e42821a842721a64260552425078a4242aaa423050c42201024211c1042005ee41f18de41e008241d015641c050a413009c411163040d21d840908fc407099a4060000c00,
  0x54a4580aae44d161644c293a44b07be44a29384490a06448015e4470ffe4460e824450ed84440218443024643f0a5e43e07bc43d046e43907b843807b6437162643429364311d6042d0fbe42c2b6042b09c642a1a4442820f242720f042603b0425078a4242af2423055842200d24211a7042005b441f18b241e006c41d014a41c054c41300a8411163040d20f640908ea40709364060000c00,
  0x4a44580aae44d161644c293a44b07be44a29384490a6244801784470c9e4460cc44450d0e444021a443024a43f0a9643e07bc43d047643907b843807b6437162643429364311d6042d11e042c2af642b0a0842a1a4a42821a842721a6426054e425078a4242ae242304aa42200f64211c1042005c041f18de41e008041d015041c04a6413009c411163040d21d840908ec407095c4060000c00,
  0x5384580aae44d161644c293a44b07be44a29384490aa844801804470c9e446113244511504440220443024c43f0ae643e07bc43d054843907b843807b6437162643429364311d6042d133442c2b2042b0a7042a1a4e42821a842721a64260446425078a4242b02423053c42201044211c1042005f441f18de41e008241d015241c053a413009c411163040d21d840908ee40709a04060000c00,
  0x68770a0a45d03e84341d6042d0ffc42c2ad442b0a1842a0c9e4291ce642821a842721a64260546425078a4242aaa423041842200bc4211c1042005a441f18de41e01dc41d014641c0414413018641121d840904124080ba0407091e4060000c00,
  0x68780a2245d03244341d6042d100042c290242b0a2442a0ffe4291c3a42820f242720f04260316425078a4242900423031442200c24211a7042005aa41f18b241e01a241d014841c0312413018441120f640903104080b9a40709284060000c00,
  0x68790a5e45d041e4341d6042d11e642c2b6042b0a6c42a0ffe4291c3a42820f242720f042603b0425078a4242af2423055842200d04211a7042005b441f18b241e01a241d014a41c054c413018441120f6409054a4080b9a40709364060000c00,
  0x687a0a8645d036e4341d6042d121242c29e042b0a8442a0c9e4291ce642821a842721a64260368425078a4242aaa42303ae42200de4211c1042005bc41f18de41e01dc41d014c41c039a413018641121d840903984080ba040709544060000c00,
  0x687b0ad045d03b64341d6042d13d842c2b2c42b0ad642a0ffe4291c3a42820f242720f04260544425078a4242900423055442200ee4211a7042005d441f18b241e01a241d014e41c0542413018441120f640905404080b9a40709844060000c00,
  0x687c0a9645d04804341d6042d133242c2af642b0aaa42a0c9e4291ce642821a842721a6426054e425078a4242ae242304aa42200f84211c1042005c041f18de41e01dc41d015041c04a6413018641121d840904a44080ba0407095c4060000c00,
  0x687d0ae645d05144341d6042d142a42c2b2042b0afa42a0c9e4291ce642821a842721a64260446425078a4242b02423053c422010e4211c1042005f441f18de41e01da41d015241c053a413018641121d840905384080b9e40709a04060000c00,
  0x687e0ade45d04b24341d6042d142642c2b0642b0af242a0c9e4291ce642821a842721a64260550425078a4242aaa42304dc42201064211c1042005ec41f18de41e01dc41d015441c04d8413018641121d840904d64080ba040709984060000c00,
  0x687f0ae045d04e44341d6042d142842c2b1442b0af442a0c9e4291ce642821a842721a64260552425078a4242aaa423050c42201084211c1042005ee41f18de41e01dc41d015641c050a413018641121d840905084080ba0407099a4060000c00,
  0x68800b3a45d044c4341d6042d0c9842c2ae642b0b5442a0c9e4291ce642821a842721a642603e2425078a4242aaa423047842201224211c10420060e41f18de41e01da41d015841c0474413018641121d840904724080b9e40709d64060000c00,
  0x162848416164830aae4820002881293a44b07be44a293844907ba447162a44502bc4401a1443f07bc43d03e643b000383a293443907b843807b64371626434293643115ee42a1d6c42821b842721b642622284242104421065641d00ac411163040d222c4090000c00,
  0x2885162848416164830aae482293a44b07be44a293844907ba447162a44502744401a1443f07bc43d031c43b000383a293443907b843807b64371626434293643115ee42a1d6c42821b842721b642622284242104421065641d00ac411163040d222c4090000c00]

/-- The rows of actions 128 to 191. -/
def rows2 : Array Nat := #[
  0x2886162848416164830aae482293a44b07be44a293844907ba447162a44502c84401a1443f07bc43d041c43b000383a293443907b843807b64371626434293643115ee42a1d6c42821b842721b642622284242104421065641d00ac411163040d222c4090000c00,
  0x2887162848416164830aae482293a44b07be44a293844907ba447162a445029e4401a1443f07bc43d036c43b000383a293443907b843807b64371626434293643115ee42a1d6c42821b842721b642622284242104421065641d00ac411163040d222c4090000c00,
  0x2888162848416164830aae482293a44b07be44a293844907ba447162a44502d44401a1443f07bc43d002383c044a43b002383b000383a293443907b843807b64371626434293643115ee42a1d6c42821b842721b642622284242104421065641d00ac411163040d222c4090000c00,
  0x2888162848416164830aae482006186f000286f006185c293a44b07be44a293844907ba447162a44502bc4401a1443f07bc43d03e643b000383a293443907b843807b64371626434293643115ee42a1d6c42821b842721b642622284242104421065641d00ac411163040d222c4090000c00,
  0xad04892908433290643229044310968430059442f1d6042d13d842c2b2c42b0ad642a0ffe4291c3a42820f242720f04260544425078a4242900423055442200ee4211a6842005c841f18b041e01a241d014e41c054241301844111a1040d096640c1a6640b1d6e40905404080b9a407096e4060a764050000c00,
  0x2888162848416164830aae482002386f000286f293a44b08d444a2b8244908d0447162a44502bc4401a1443f08d243d03e643b002383b000383a293443908ce43808cc43716264342b8c43115ee42a1d6c42821b842721b6426222842421fe421065641d00ac411163040d222c4090000c00,
  0xad04892908433290643229044310968430059442f1d6042d13d842c2b2c42b0ad642a0ffe4291c3a42820f242720f04260544425078a4242900423055442200ee4211c2842005d841f18e441e01a241d014e41c054241301844111a1040d096640c1a6640b1d6e40905404080b9a40709844060a764050000c00,
  0x2888182a48417ec4830ac8482002387100028712a2444b082c44a2a224490828447182c44502bc4401a4843f082a43d03e643b002383b000383a2a204390826438082443718284342b6e431170a42a20a442821984272196426222842421e2421074041d00b4411183240d222c4090000c00,
  0xad04892aae4332aac4322b2e431097e430059a42f1d6042d13d842c2b2c42b0ad642a0ffe4291c3a42820f242720f04260544425078a4242900423055442200ee4211c3442005da41f18ea41e01a241d014e41c054241301844111a5a40d097c40c1c0c40b20ee40905404080b9a40709844060a9e4050000c00,
  0x288a162848416164830aae482293a44b07be44a293844907ba447162a44502aa4401a1443f07bc43d03b443b000383a293443907b843807b64371626434293643115ee42a1d6c42821b842721b642622284242104421065641d00ac411163040d222c4090000c00,
  0x288b162848416164830aae482293a44b07be44a293844907ba447162a44502e04401a1443f07bc43d047e43b000383a293443907b843807b64371626434293643115ee42a1d6c42821b842721b642622284242104421065641d00ac411163040d222c4090000c00,
  0x2888162848416164830aae482006185c293a44b07be44a293844907ba447162a44502d44401a1443f07bc43d044a43b000383a293443907b843807b64371626434293643115ee42a1d6c42821b842721b642622284242104421065641d00ac411163040d222c4090000c00,
  0x288c162848416164830aae482293a44b07be44a293844907ba447162a44502ec4401a1443f07bc43d04b043b000383a293443907b843807b64371626434293643115ee42a1d6c42821b842721b642622284242104421065641d00ac411163040d222c4090000c00,
  0x288d162848416164830aae482293a44b07be44a293844907ba447162a44502f84401a1443f07bc43d04e243b000383a293443907b843807b64371626434293643115ee42a1d6c42821b842721b642622284242104421065641d00ac411163040d222c4090000c00,
  0x288e162848416164830aae482293a44b07be44a293844907ba447162a44503044401a1443f07bc43d051243b000383a293443907b843807b64371626434293643115ee42a1d6c42821b842721b642622284242104421065641d00ac411163040d222c4090000c00,
  0x2888162848416164830aae482293a44b07be44a293844907ba447162a44502d44401a1443f07bc43d044a43b000383a293443907b843807b64371626434293643115ee42a1d6c42821b842721b642622284242104421065641d00ac411163040d222c4090000c00,
  0xa2648f221c4640c9e46101fa45501f84540096447100644503224411d6042d100842c29e042b0a2842a1ce642821a842721a64260368425078a4242aaa42303ae42200c44211c1042005ac41f18de41e01da41d014c41c039a413018641121d840903984080b9e407092a4060000c00,
  0x13890295245b00284070000c00, 0x13890295445b00284070000c00, 0x1389100284070000c00,
  0x5dc49400198930018892001a83b0000c00,
  0x9b448f221c4640c9e461020045501fe45400a6447110044503224411d6042d0dea42c2ae642b09b642a1ce642821a842721a642603e2425078a4242aaa423047842200ae4211c1042005a041f18de41e01de41d015841c0474413018641121d840904724080ba240709164060000c00,
  0x9b448f22984640c9e461020045501fe45400a6447110044503224411d6042d0dea42c2ae642b09b642a1ce642821a842721a642603e2425078a4242aaa423047842200ae4211c1042005a041f18de41e01de41d015841c0474413018641121d840904724080ba240709164060000c00,
  0x9b448f22c04640c9e461020045501fe45400a6447110044503224411d6042d0dea42c2ae642b09b642a1ce642821a842721a642603e2425078a4242aaa423047842200ae4211c1042005a041f18de41e01de41d015841c0474413018641121d840904724080ba240709164060000c00,
  0x9b448f1ccc4640c9e461020045501fe45400a6447110044503224411d6042d0dea42c2ae642b09b642a1ce642821a842721a642603e2425078a4242aaa423047842200ae4211c1042005a041f18de41e01de41d015841c0474413018641121d840904724080ba240709164060000c00,
  0x9b448f1bc44640c9e461020045501fe45400a6447110044503224411d6042d0dea42c2ae642b09b642a1ce642821a842721a642603e2425078a4242aaa423047842200ae4211c1042005a041f18de41e01de41d015841c0474413018641121d840904724080ba240709164060000c00,
  0x9b448f1cd04640c9e461020045501fe45400a6447110044503224411d6042d0dea42c2ae642b09b642a1ce642821a842721a642603e2425078a4242aaa423047842200ae4211c1042005a041f18de41e01de41d015841c0474413018641121d840904724080ba240709164060000c00,
  0x9b448f1cd24640c9e461020045501fe45400a6447110044503224411d6042d0dea42c2ae642b09b642a1ce642821a842721a642603e2425078a4242aaa423047842200ae4211c1042005a041f18de41e01de41d015841c0474413018641121d840904724080ba240709164060000c00,
  0x9b448f1bc84640c9e461020045501fe45400a6447110044503224411d6042d0dea42c2ae642b09b642a1ce642821a842721a642603e2425078a4242aaa423047842200ae4211c1042005a041f18de41e01de41d015841c0474413018641121d840904724080ba240709164060000c00,
  0x9b448f1bca4640c9e461020045501fe45400a6447110044503224411d6042d0dea42c2ae642b09b642a1ce642821a842721a642603e2425078a4242aaa423047842200ae4211c1042005a041f18de41e01de41d015841c0474413018641121d840904724080ba240709164060000c00,
  0xa9a45d0e6845901ee44e03204411d6042d12f042c2ad442b0a9c42a0c9e4291ce642821a842721a64260546425078a4242aaa423041842200e44211c1042005c441f18de41e01da41d014641c0414413018641121d840904124080b9e40709604060000c00,
  0xd895000b8920000c00, 0x148960000c00, 0x598960000c00, 0x6a8494008489300858920000c00,
  0xc28960000c00, 0xc38960000c00, 0x6d849400f189300f28920000c00, 0x6da49400f189300f28920000c00,
  0x6e249400f889300fc8920000c00, 0x6f44940129893012a8920000c00,
  0x9b448f0c9e461020045501fe45400a6447110044503224411d6042d0dea42c2ae642b09b642a1ce642821a842721a642603e2425078a4242aaa423047842200ae4211c1042005a041f18de41e01de41d015841c0474413018641121d840904724080ba240709164060000c00,
  0x700494014489301438920000c00, 0x702494014889301498920000c00, 0x7044940146893014a8920000c00,
  0x710494016789301688920000c00, 0x712494016789301688920000c00, 0x71e494017f89301808920000c00,
  0x726494018e893018d8920000c00, 0x408960000c00, 0x1889701d04940000c00, 0xa58960000c00,
  0x608960000c00, 0x6089701d64940000c00, 0x818960000c00, 0xce8960000c00, 0xf08960000c00,
  0xa9a45d0d3645901ee44e03204411d6042d12f042c2ad442b0a9c42a0c9e4291ce642821a842721a64260546425078a4242aaa423041842200e44211c1042005c441f18de41e01da41d014641c0414413018641121d840904124080b9e40709604060000c00,
  0xa9a45d0d0845901ee44e03204411d6042d12f042c2ad442b0a9c42a0c9e4291ce642821a842721a64260546425078a4242aaa423041842200e44211c1042005c441f18de41e01da41d014641c0414413018641121d840904124080b9e40709604060000c00,
  0xa9a45d0e0045901ee44e03204411d6042d12f042c2ad442b0a9c42a0c9e4291ce642821a842721a64260546425078a4242aaa423041842200e44211c1042005c441f18de41e01da41d014641c0414413018641121d840904124080b9e40709604060000c00,
  0xa9a45d124a45901ee44e03204411d6042d12f042c2ad442b0a9c42a0c9e4291ce642821a842721a64260546425078a4242aaa423041842200e44211c1042005c441f18de41e01da41d014641c0414413018641121d840904124080b9e40709604060000c00,
  0xa9a45d137645901ee44e03204411d6042d12f042c2ad442b0a9c42a0c9e4291ce642821a842721a64260546425078a4242aaa423041842200e44211c1042005c441f18de41e01da41d014641c0414413018641121d840904124080b9e40709604060000c00,
  0xa8045d1fe245901fc44e03224411d6042d136e42c2b1442b0a8242a0c9e4291ce642821a842721a64260552425078a4242aaa423050c42200da4211c1042005ba41f18de41e01e241d015641c050a413018641121d840905084080ba640709404060000c00,
  0x398980a0a45d1d6042d0ffc42c2ad442b0a1842a0c9e4291ce642821a842721a64260546425078a4242aaa423041842200bc4211c1042005a441f18de41e014641c0414413018641121d840904124080ba0407091e4060000c00]

/-- The rows of actions 192 to 255. -/
def rows3 : Array Nat := #[
  0x398990a0a45d1d6042d0ffc42c2ad442b0a1842a0c9e4291ce642821a842721a64260546425078a4242aaa423041842200bc4211c1042005a441f18de41e014641c0414413018641121d840904124080ba0407091e4060000c00,
  0x9b445d1a8a45901fc44e03224411d6042d0dea42c2ae642b09b642a0c9e4291ce642821a842721a642603e2425078a4242aaa423047842200ae4211c1042005a041f18de41e01de41d015841c0474413018641121d840904724080ba240709164060000c00,
  0xa7c49a1d6042d11f442c2ad442b0a7e42a0c9e4291ce642821a842721a64260546425078a4242aaa423041842200d84211c1042005b841f18de41e01e041d014641c0414413061841201864111a9040d093e40c1a8e40b21d840904124080ba4407093c4060000c00,
  0x3186f003086f0a9a45d03204411d6042d12f042c2ad442b0a9c42a0c9e4291ce642821a842721a64260546425078a4242aaa423041842200e44211c1042005c441f18de41e01da41d014641c0414413018641121d840904124080b9e40709604060000c00,
  0xabc45d1fe245901fc44e03224411d6042d136e42c2b1442b0abe42a0c9e4291ce642821a842721a64260552425078a4242aaa423050c42200ea4211c1042005d241f18de41e01e241d015641c050a413018641121d840905084080ba640709704060000c00,
  0x3989b0b3a45d1d6042d0c9842c2ae642b0b5442a0c9e4291ce642821a842721a642603e2425078a4242aaa423047842201224211c10420060e41f18de41e015841c0474413018641121d840904724080b9e40709d64060000c00,
  0x9b445d1fe245901fc44e03224411d6042d0dea42c2ae642b09b642a0c9e4291ce642821a842721a642603e2425078a4242aaa423047842200ae4211c1042005a041f18de41e01de41d015841c0474413018641121d840904724080ba240709164060000c00,
  0x1c89c000285e029e440002383d002383c000283c036c43b002383b000383a0000c00,
  0x1d89c000285e029e440002383d002383c000283c036c43b002383b000383a0000c00,
  0x3186f09b445d03224411d6042d0dea42c2ae642b09b642a0c9e4291ce642821a842721a642603e2425078a4242aaa423047842200ae4211c1042005a041f18de41e01de41d015841c0474413018641121d840904724080ba240709164060000c00,
  0x1c89c0023862000285e02d4440044a43b002383b000383a0000c00,
  0x1d89c0023862000285e02d4440044a43b002383b000383a0000c00,
  0x3989d0a8645d1d6042d121242c29e042b0a8442a0c9e4291ce642821a842721a64260368425078a4242aaa42303ae42200de4211c1042005bc41f18de41e014c41c039a413018641121d840903984080ba040709544060000c00,
  0x9b448f0c9e461020045501fe454009a447102c44503224411d6042d0dea42c2ae642b09b642a1ce642821a842721a642603e2425078a4242aaa423047842200ae4211c1042005a041f18b841e01de41d015841c0474413018641121d840904724080ba240709164060000c00,
  0xdb64640a8645d023c44e035a4411d6042d121242c29e042b0a8442a0c9e4291ce642821a842721a64260368425078a4242aaa42303ae42200de4211c1042005bc41f18de41e01dc41d014c41c039a413018641121d840903984080ba040709544060000c00,
  0x3989e0a2245d1d6042d100042c290242b0a2442a0ffe4291c3a42820f242720f04260316425078a4242900423031442200c24211a7042005aa41f18b241e014841c0312413018441120f640903104080b9a40709284060000c00,
  0xbbc4640a8645d023c44e035a4411d6042d121242c29e042b0a8442a0c9e4291ce642821a842721a64260368425078a4242aaa42303ae42200de4211c1042005bc41f18de41e01dc41d014c41c039a413018641121d840903984080ba040709544060000c00,
  0x7924640a8645d023c44e035a4411d6042d121242c29e042b0a8442a0c9e4291ce642821a842721a64260368425078a4242aaa42303ae42200de4211c1042005bc41f18de41e01dc41d014c41c039a413018641121d840903984080ba040709544060000c00,
  0x137c4640a8645d023c44e035a4411d6042d121242c29e042b0a8442a0c9e4291ce642821a842721a64260368425078a4242aaa42303ae42200de4211c1042005bc41f18de41e01dc41d014c41c039a413018641121d840903984080ba040709544060000c00,
  0x17684640a8645d023c44e035a4411d6042d121242c29e042b0a8442a0c9e4291ce642821a842721a64260368425078a4242aaa42303ae42200de4211c1042005bc41f18de41e01dc41d014c41c039a413018641121d840903984080ba040709544060000c00,
  0x18924640a8645d023c44e035a4411d6042d121242c29e042b0a8442a0c9e4291ce642821a842721a64260368425078a4242aaa42303ae42200de4211c1042005bc41f18de41e01dc41d014c41c039a413018641121d840903984080ba040709544060000c00,
  0x1a3c4640a8645d023c44e035a4411d6042d121242c29e042b0a8442a0c9e4291ce642821a842721a64260368425078a4242aaa42303ae42200de4211c1042005bc41f18de41e01dc41d014c41c039a413018641121d840903984080ba040709544060000c00,
  0x3989e0ad045d1d6042d13d842c2b2c42b0ad642a0ffe4291c3a42820f242720f04260544425078a4242900423055442200ee4211a7042005d441f18b241e014e41c0542413018441120f640905404080b9a40709844060000c00,
  0x3989e0a5e45d1d6042d11e642c2b6042b0a6c42a0ffe4291c3a42820f242720f042603b0425078a4242af2423055842200d04211a7042005b441f18b241e014a41c054c413018441120f6409054a4080b9a40709364060000c00,
  0x3989e0a9645d1d6042d133242c2af642b0aaa42a0c9e4291ce642821a842721a6426054e425078a4242ae242304aa42200f84211c1042005c041f18de41e015041c04a6413018641121d840904a44080ba0407095c4060000c00,
  0x3989e0ade45d1d6042d142642c2b0642b0af242a0c9e4291ce642821a842721a64260550425078a4242aaa42304dc42201064211c1042005ec41f18de41e015441c04d8413018641121d840904d64080ba040709984060000c00,
  0x3989e0ae045d1d6042d142842c2b1442b0af442a0c9e4291ce642821a842721a64260552425078a4242aaa423050c42201084211c1042005ee41f18de41e015641c050a413018641121d840905084080ba0407099a4060000c00,
  0x3989e0ae645d1d6042d142a42c2b2042b0afa42a0c9e4291ce642821a842721a64260446425078a4242b02423053c422010e4211c1042005f441f18de41e015241c053a413018641121d840905384080b9e40709a04060000c00,
  0x9b449f0c9e46102004550098447102a44503224411d6042d0dea42c2ae642b09b642a1ce642821a842721a642603e2425078a4242aaa423047842200ae4211c1042005a041f18de41e01de41d015841c0474413018641121d840904724080ba240709164060000c00,
  0xa9a45d03224411d6042d12f042c2ad442b0a9c42a0c9e4291ce642821a842721a64260546425078a4242aaa423041842200e44211c1042005c441f18de41e01da41d014641c0414413018641121d840904124080b9e40709604060000c00,
  0x9b449f0c9e461020045500a0447106a44503224411d6042d0dea42c2ae642b09b642a1ce642821a842721a642603e2425078a4242aaa423047842200ae4211c1042005a041f18de41e01de41d015841c0474413018641121d840904724080ba240709164060000c00,
  0x3086f0a0a45d03de4411d6042d0ffc42c2ad442b0a1842a0c9e4291ce642821a842721a64260546425078a4242aaa423041842200bc4211c1042005a441f18de41e01dc41d014641c0414413018641121d840904124080ba0407091e4060000c00,
  0xc9e4610b3a45d108c4451d6042d0c9842c2ae642b0a3c42a1ce642821a842721a642603e2425078a4242aaa423047842201224211c10420060e41f18de41e01da41d015841c0474413018641121d840904724080b9e40709d64060000c00,
  0x9b445d03224411d6042d0dea42c2ae642b09b642a0c9e4291ce642821a842721a642603e2425078a4242aaa423047842200ae4211c1042005a041f18de41e01de41d015841c0474413018641121d840904724080ba240709164060000c00,
  0xffe4610a2245d0f324451d6042d100042c290242b099042a1c3a42820f242720f04260316425078a4242900423031442200c24211a7042005aa41f18b241e01a241d014841c0312413018441120f640903104080b9a40709284060000c00,
  0xc9e4610a8645d0bf24451d6042d121242c29e042b09be42a1ce642821a842721a64260368425078a4242aaa42303ae42200de4211c1042005bc41f18de41e01dc41d014c41c039a413018641121d840903984080ba040709544060000c00,
  0xc9e4610a0a45d0bf24451d6042d0ffc42c2ad442b098842a1ce642821a842721a64260546425078a4242aaa423041842200bc4211c1042005a441f18de41e01dc41d014641c0414413018641121d840904124080ba0407091e4060000c00,
  0xc9e4610b3a45d0bf24451d6042d0c9842c2ae642b0a6442a1ce642821a842721a642603e2425078a4242aaa423047842201224211c10420060e41f18de41e01da41d015841c0474413018641121d840904724080b9e40709d64060000c00,
  0xc9e4610a0a45d12544451d6042d0ffc42c2ad442b09c242a1ce642821a842721a64260546425078a4242aaa423041842200bc4211c1042005a441f18de41e01dc41d014641c0414413018641121d840904124080ba0407091e4060000c00,
  0xc9e4610b3a45d12544451d6042d0c9842c2ae642b0a1442a1ce642821a842721a642603e2425078a4242aaa423047842201224211c10420060e41f18de41e01da41d015841c0474413018641121d840904724080b9e40709d64060000c00,
  0xc9e4610a0a45d0f984451d6042d0ffc42c2ad442b097642a1ce642821a842721a64260546425078a4242aaa423041842200bc4211c1042005a441f18de41e01dc41d014641c0414413018641121d840904124080ba0407091e4060000c00,
  0x308a00a8645d035a4411d6042d121242c29e042b0a8442a0c9e4291ce642821a842721a64260368425078a4242aaa42303ae42200de4211c1042005bc41f18de41e01dc41d014c41c039a413018641121d840903984080ba040709544060000c00,
  0xc9e4610a8645d108c4451d6042d121242c29e042b09de42a1ce642821a842721a64260368425078a4242aaa42303ae42200de4211c1042005bc41f18de41e01dc41d014c41c039a413018641121d840903984080ba040709544060000c00,
  0xffe4610ad045d0f324451d6042d13d842c2b2c42b09ca42a1c3a42820f242720f04260544425078a4242900423055442200ee4211a7042005d441f18b241e01a241d014e41c0542413018441120f640905404080b9a40709844060000c00,
  0xc9e4610ade45d0bf24451d6042d142642c2b0642b0a0e42a1ce642821a842721a64260550425078a4242aaa42304dc42201064211c1042005ec41f18de41e01dc41d015441c04d8413018641121d840904d64080ba040709984060000c00,
  0xc9e4610a0a45d108c4451d6042d0ffc42c2ad442b0a1642a1ce642821a842721a64260546425078a4242aaa423041842200bc4211c1042005a441f18de41e01dc41d014641c0414413018641121d840904124080ba0407091e4060000c00,
  0xffe4610a5e45d0f324451d6042d11e642c2b6042b099642a1c3a42820f242720f042603b0425078a4242af2423055842200d04211a7042005b441f18b241e01a241d014a41c054c413018441120f6409054a4080b9a40709364060000c00,
  0xc9e4610ae045d0bf24451d6042d142842c2b1442b0a1042a1ce642821a842721a64260552425078a4242aaa423050c42201084211c1042005ee41f18de41e01dc41d015641c050a413018641121d840905084080ba0407099a4060000c00,
  0xc9e4610a9645d0bf24451d6042d133242c2af642b09d042a1ce642821a842721a6426054e425078a4242ae242304aa42200f84211c1042005c041f18de41e01dc41d015041c04a6413018641121d840904a44080ba0407095c4060000c00,
  0xc9e4610ae645d0bf24451d6042d142a42c2b2042b0a1242a1ce642821a842721a64260446425078a4242b02423053c422010e4211c1042005f441f18de41e01da41d015241c053a413018641121d840905384080b9e40709a04060000c00,
  0x6544a10a2245d1d6042d100042c290242b0a2442a0ffe4291c3a42820f242720f04260316425078a4242900423031442200c24211a7042005aa41f18b241e01a241d014841c0312413018441120f640903104080b9a40709284060000c00,
  0x9b44a20c9e4610098447102a44503224411d6042d0dea42c2ae642b09b642a1ce642821a842721a642603e2425078a4242aaa423047842200ae4211c1042005a041f18de41e01de41d015841c0474413018641121d840904724080ba240709164060000c00,
  0xa0a45d1d6042d0ffc42c2ad442b0a1842a0c9e4291ce642821a842721a64260546425078a4242aaa423041842200bc4211c1042005a441f18de41e01dc41d014641c04144130618412018641121d840904124080ba0407091e4060000c00,
  0x9b44a20c9e461009e447106644503224411d6042d0dea42c2ae642b09b642a1ce642821a842721a642603e2425078a4242aaa423047842200ae4211c1042005a041f18de41e01de41d015841c0474413018641121d840904724080ba240709164060000c00,
  0x9b44a20c9e46100a2447106c44503224411d6042d0dea42c2ae642b09b642a1ce642821a842721a642603e2425078a4242aaa423047842200ae4211c1042005a041f18de41e01de41d015841c0474413018641121d840904724080ba240709164060000c00,
  0x9b44a20c9e46100a444710b244503224411d6042d0dea42c2ae642b09b642a1ce642821a842721a642603e2425078a4242aaa423047842200ae4211c1042005a041f18de41e01de41d015841c0474413018641121d840904724080ba240709164060000c00,
  0xaee49a1d6042d142442c2ae642b0af042a0c9e4291ce642821a842721a642603e2425078a4242aaa423047842200fe4211c1042005fa41f18de41e01e041d015841c047441301864111c7240d09b040c1c7040b21d840904724080ba440709a64060000c00,
  0x504640a8645d1d6042d121242c29e042b0a8442a0c9e4291ce642821a842721a64260368425078a4242aaa42303ae42200de4211c1042005bc41f18de41e01dc41d014c41c039a413018641121d840903984080ba040709544060000c00,
  0x544640a8645d1d6042d121242c29e042b0a8442a0c9e4291ce642821a842721a64260368425078a4242aaa42303ae42200de4211c1042005bc41f18de41e01dc41d014c41c039a413018641121d840903984080ba040709544060000c00,
  0x564640a8645d1d6042d121242c29e042b0a8442a0c9e4291ce642821a842721a64260368425078a4242aaa42303ae42200de4211c1042005bc41f18de41e01dc41d014c41c039a413018641121d840903984080ba040709544060000c00,
  0x5c4640a8645d1d6042d121242c29e042b0a8442a0c9e4291ce642821a842721a64260368425078a4242aaa42303ae42200de4211c1042005bc41f18de41e01dc41d014c41c039a413018641121d840903984080ba040709544060000c00,
  0x704640a8645d1d6042d121242c29e042b0a8442a0c9e4291ce642821a842721a64260368425078a4242aaa42303ae42200de4211c1042005bc41f18de41e01dc41d014c41c039a413018641121d840903984080ba040709544060000c00,
  0x744640a8645d1d6042d121242c29e042b0a8442a0c9e4291ce642821a842721a64260368425078a4242aaa42303ae42200de4211c1042005bc41f18de41e01dc41d014c41c039a413018641121d840903984080ba040709544060000c00,
  0x764640a8645d1d6042d121242c29e042b0a8442a0c9e4291ce642821a842721a64260368425078a4242aaa42303ae42200de4211c1042005bc41f18de41e01dc41d014c41c039a413018641121d840903984080ba040709544060000c00]

/-- The rows of actions 256 to 319. -/
def rows4 : Array Nat := #[
  0x7c4640a8645d1d6042d121242c29e042b0a8442a0c9e4291ce642821a842721a64260368425078a4242aaa42303ae42200de4211c1042005bc41f18de41e01dc41d014c41c039a413018641121d840903984080ba040709544060000c00,
  0xa2245d1d6042d100042c290242b0a2442a0ffe4291c3a42820f242720f04260316425078a4242900423031442200c24211a7042005aa41f18b241e01a241d014841c0312413018441120f640903104080b9a40709284060000c00,
  0xa2245d1d6042d100042c290242b0a2442a0ffe4291c3a42820f242720f04260316425078a4242900423031442200c24211a7042005aa41f18b241e01a241d014841c0312413018441120f64090310408000c40709284060000c00,
  0xa8645d1d6042d121242c29e042b0a8442a0c9e4291ce642821a842721a64260368425078a4242aaa42303ae42200de4211c1042005bc41f18de41e01dc41d014c41c039a413018641121d840903984080ba040709544060000c00,
  0xa9645d1d6042d133242c2af642b0aaa42a0c9e4291ce642821a842721a6426054e425078a4242ae242304aa42200f84211c1042005c041f18de41e01dc41d015041c04a6413018641121d840904a44080ba0407095c4060000c00,
  0xa0a45d1d6042d0ffc42c2ad442b0a1842a0c9e4291ce642821a842721a64260546425078a4242aaa423041842200bc4211c1042005a441f18de41e01dc41d014641c0414413018641121d840904124080ba0407091e4060000c00,
  0xab245d1d6042d142842c2b1442b0ab442a0c9e4291ce642821a842721a64260552425078a4242aaa423050c42200e64211c1042005ce41f18de41e01dc41d015641c050a413018641121d840905084080ba0407096a4060000c00,
  0xab645d1d6042d142842c2b1442b0ab842a0c9e4291ce642821a842721a64260552425078a4242aaa423050c42200e84211c1042005d041f18de41e01dc41d015641c050a413018641121d840905084080ba0407096c4060000c00,
  0xa8645d1d6042d121242c29e042b0a8442a0c9e4291ce642821a842721a64260368425078a4242aaa42303ae42200de4211c1042005bc41f18de41e01dc41d014c41c039a413018641121d84090398408000e40709544060000c00,
  0xad045d1d6042d13d842c2b2c42b0ad642a0ffe4291c3a42820f242720f04260544425078a4242900423055442200ee4211a7042005d441f18b241e01a241d014e41c0542413018441120f64090540408000c40709844060000c00,
  0xa0a45d1d6042d0ffc42c2ad442b0a1842a0c9e4291ce642821a842721a64260546425078a4242aaa423041842200bc4211c1042005a441f18de41e01dc41d014641c0414413018641121d84090412408000e407091e4060000c00,
  0xa5e45d1d6042d11e642c2b6042b0a6c42a0ffe4291c3a42820f242720f042603b0425078a4242af2423055842200d04211a7042005b441f18b241e01a241d014a41c054c413018441120f6409054a408000c40709364060000c00,
  0xb3a45d1d6042d0c9842c2ae642b0b5442a0c9e4291ce642821a842721a642603e2425078a4242aaa423047842201224211c10420060e41f18de41e01da41d015841c0474413018641121d84090472408001040709d64060000c00,
  0xa9645d1d6042d133242c2af642b0aaa42a0c9e4291ce642821a842721a6426054e425078a4242ae242304aa42200f84211c1042005c041f18de41e01dc41d015041c04a6413018641121d840904a4408000e407095c4060000c00,
  0xade45d1d6042d142642c2b0642b0af242a0c9e4291ce642821a842721a64260550425078a4242aaa42304dc42201064211c1042005ec41f18de41e01dc41d015441c04d8413018641121d840904d6408000e40709984060000c00,
  0xae045d1d6042d142842c2b1442b0af442a0c9e4291ce642821a842721a64260552425078a4242aaa423050c42201084211c1042005ee41f18de41e01dc41d015641c050a413018641121d84090508408000e407099a4060000c00,
  0xae645d1d6042d142a42c2b2042b0afa42a0c9e4291ce642821a842721a64260446425078a4242b02423053c422010e4211c1042005f441f18de41e01da41d015241c053a413018641121d84090538408001040709a04060000c00,
  0xafe45d1d6042d142c42c2ae642b0b0042a0c9e4291ce642821a842721a642603e2425078a4242aaa423047842201124211c1042005fc41f18de41e01da41d015841c0474413018641121d840904724080b9e40709a84060000c00,
  0x1664a600158a500028a500028a429104a3004045c001585c0e6c44f0274440001583d034643b000383a220c4342908433290643229044311c4243014e042f1d6042d26be420291641f291441e1a1040d1a6c40c1a6640b291240918164071c40406220e4050000c00,
  0xa2e45d1d6042d11ee42c2ad442b0a7842a0c9e4291ce642821a842721a64260546425078a4242aaa423041842200d64211c1042005ae41f18de41e01da41d014641c0414413018641121d840904124080b9e407092c4060000c00,
  0x9b845d1d6042d0df242c2ae642b09ba42a0c9e4291ce642821a842721a642603e2425078a4242aaa423047842200b04211c1042005a241f18de41e01de41d015841c0474413018641121d840904724080ba240709184060000c00,
  0xade45d1d6042d142642c2b0642b0af242a0c9e4291ce642821a842721a64260550425078a4242aaa42304dc42201064211c1042005ec41f18de41e01dc41d015441c04d8413018641121d840904d64080ba040709984060000c00,
  0xae045d1d6042d142842c2b1442b0af442a0c9e4291ce642821a842721a64260552425078a4242aaa423050c42201084211c1042005ee41f18de41e01dc41d015641c050a413018641121d840905084080ba0407099a4060000c00,
  0xb3a45d0c9e451108e4501d6042d0c9842c2ae642b0b5442a1ce642821a842721a642603e2425078a4242aaa423047842201224211c10420060e41f18de41e01da41d015841c0474413018641121d840904724080b9e40709d64060000c00,
  0xad045d1d6042d13d842c2b2c42b0ad642a0ffe4291c3a42820f242720f04260544425078a4242900423055442200ee4211a7042005d441f18b241e01a241d014e41c0542413018441120f640905404080b9a40709844060000c00,
  0xa2245d0ffe4510f344501d6042d100042c290242b0a2442a1c3a42820f242720f04260316425078a4242900423031442200c24211a7042005aa41f18b241e01a241d014841c0312413018441120f640903104080b9a40709284060000c00,
  0x1664a600158a500028a500028a429104a3004045c001585c0d0a44f0274440001583d034643b000383a220c4342908433290643229044311c4243014e042f1d6042d26be420291641f291441e1a1040d1a6c40c1a6640b291240918164071c40406220e4050000c00,
  0xa5e45d1d6042d11e642c2b6042b0a6c42a0ffe4291c3a42820f242720f042603b0425078a4242af2423055842200d04211a7042005b441f18b241e01a241d014a41c054c413018441120f6409054a4080b9a40709364060000c00,
  0xa8645d0c9e4510bf64501d6042d121242c29e042b0a8442a1ce642821a842721a64260368425078a4242aaa42303ae42200de4211c1042005bc41f18de41e01dc41d014c41c039a413018641121d840903984080ba040709544060000c00,
  0xae645d1d6042d142a42c2b2042b0afa42a0c9e4291ce642821a842721a64260446425078a4242b02423053c422010e4211c1042005f441f18de41e01da41d015241c053a413018641121d840905384080b9e40709a04060000c00,
  0x1664a600158a500028a500028a429104a3004045c001585c0d3844f0274440001583d034643b000383a220c4342908433290643229044311c4243014e042f1d6042d26be420291641f291441e1a1040d1a6c40c1a6640b291240918164071c40406220e4050000c00,
  0xb3a45d0c9e4510bf64501d6042d0c9842c2ae642b0b5442a1ce642821a842721a642603e2425078a4242aaa423047842201224211c10420060e41f18de41e01da41d015841c0474413018641121d840904724080b9e40709d64060000c00,
  0xa0a45d0c9e45112564501d6042d0ffc42c2ad442b0a1842a1ce642821a842721a64260546425078a4242aaa423041842200bc4211c1042005a441f18de41e01dc41d014641c0414413018641121d840904124080ba0407091e4060000c00,
  0xb3a45d0c9e45112564501d6042d0c9842c2ae642b0b5442a1ce642821a842721a642603e2425078a4242aaa423047842201224211c10420060e41f18de41e01da41d015841c0474413018641121d840904724080b9e40709d64060000c00,
  0xa0a45d0c9e4510f9c4501d6042d0ffc42c2ad442b0a1842a1ce642821a842721a64260546425078a4242aaa423041842200bc4211c1042005a441f18de41e01dc41d014641c0414413018641121d840904124080ba0407091e4060000c00,
  0xb0845d1d6042d145c42c2ae642b0b0a42a0c9e4291ce642821a842721a642603e2425078a4242aaa423047842201164211c10420060441f18de41e01da41d015841c0474413018641121d840904724080b9e40709c44060000c00,
  0xa8645d0c9e451108e4501d6042d121242c29e042b0a8442a1ce642821a842721a64260368425078a4242aaa42303ae42200de4211c1042005bc41f18de41e01dc41d014c41c039a413018641121d840903984080ba040709544060000c00,
  0xb3a45d1d6042d0c9842c2ae642b0b5442a0c9e4291ce642821a842721a642603e2425078a4242aaa423047842201224211c10420060e41f18de41e01da41d015841c0474413018641121d840904724080b9e40709d64060000c00,
  0xad045d0ffe4510f344501d6042d13d842c2b2c42b0ad642a1c3a42820f242720f04260544425078a4242900423055442200ee4211a7042005d441f18b241e01a241d014e41c0542413018441120f640905404080b9a40709844060000c00,
  0xa0a45d0c9e4510bf64501d6042d0ffc42c2ad442b0a1842a1ce642821a842721a64260546425078a4242aaa423041842200bc4211c1042005a441f18de41e01dc41d014641c0414413018641121d840904124080ba0407091e4060000c00,
  0xb2a45d1d6042d146242c2ae642b0b2c42a0c9e4291ce642821a842721a642603e2425078a4242aaa423047842201184211c10420060641f18de41e01da41d015841c0474413018641121d840904724080b9e40709cc4060000c00,
  0xa0a45d0c9e451108e4501d6042d0ffc42c2ad442b0a1842a1ce642821a842721a64260546425078a4242aaa423041842200bc4211c1042005a441f18de41e01dc41d014641c0414413018641121d840904124080ba0407091e4060000c00,
  0xa5e45d0ffe4510f344501d6042d11e642c2b6042b0a6c42a1c3a42820f242720f042603b0425078a4242af2423055842200d04211a7042005b441f18b241e01a241d014a41c054c413018441120f6409054a4080b9a40709364060000c00,
  0xa9645d0c9e4510bf64501d6042d133242c2af642b0aaa42a1ce642821a842721a6426054e425078a4242ae242304aa42200f84211c1042005c041f18de41e01dc41d015041c04a6413018641121d840904a44080ba0407095c4060000c00,
  0xb2e45d1d6042d146442c2ae642b0b3042a0c9e4291ce642821a842721a642603e2425078a4242aaa4230478422011c4211c10420060841f18de41e01da41d015841c0474413018641121d840904724080b9e40709ce4060000c00,
  0xade45d0c9e4510bf64501d6042d142642c2b0642b0af242a1ce642821a842721a64260550425078a4242aaa42304dc42201064211c1042005ec41f18de41e01dc41d015441c04d8413018641121d840904d64080ba040709984060000c00,
  0xb3245d1d6042d146642c2ae642b0b3442a0c9e4291ce642821a842721a642603e2425078a4242aaa4230478422011e4211c10420060a41f18de41e01da41d015841c0474413018641121d840904724080b9e40709d24060000c00,
  0xae045d0c9e4510bf64501d6042d142842c2b1442b0af442a1ce642821a842721a64260552425078a4242aaa423050c42201084211c1042005ee41f18de41e01dc41d015641c050a413018641121d840905084080ba0407099a4060000c00,
  0xb3645d1d6042d146842c2ae642b0b3842a0c9e4291ce642821a842721a642603e2425078a4242aaa423047842201204211c10420060c41f18de41e01da41d015841c0474413018641121d840904724080b9e40709d44060000c00,
  0xb3c45d1d6042d146a42c2ae642b0b3e42a0c9e4291ce642821a842721a642603e2425078a4242aaa423047842201244211c10420061041f18de41e01da41d015841c0474413018641121d840904724080b9e40709d84060000c00,
  0xb4045d1d6042d146c42c2ae642b0b4242a0c9e4291ce642821a842721a642603e2425078a4242aaa423047842201264211c10420061241f18de41e01da41d015841c0474413018641121d840904724080b9e40709da4060000c00,
  0xae645d0c9e4510bf64501d6042d142a42c2b2042b0afa42a1ce642821a842721a64260446425078a4242b02423053c422010e4211c1042005f441f18de41e01da41d015241c053a413018641121d840905384080b9e40709a04060000c00,
  0xb4445d1d6042d146e42c2ae642b0b4642a0c9e4291ce642821a842721a642603e2425078a4242aaa423047842201284211c10420061441f18de41e01da41d015841c0474413018641121d840904724080b9e40709dc4060000c00,
  0xb4c45d1d6042d147042c2ae642b0b4e42a0c9e4291ce642821a842721a642603e2425078a4242aaa4230478422012a4211c10420061641f18de41e01da41d015841c0474413018641121d840904724080b9e40709e04060000c00,
  0x1c524a9210e4a800028a7004045c001585c148a4530e6c44f0274440001583d034a43b000383a153c4340002834211042a21b842721b64262228424001582400028241a7a420034841d000281d0190411001581100028110000c00,
  0x1c524a9210e4a800028a7004045c001585c148a4530d0a44f0274440001583d034a43b000383a153c4340002834211042a21b842721b64262228424001582400028241a7a420034841d000281d0190411001581100028110000c00,
  0x1c524a9210e4a800028a7004045c001585c148a4530d3844f0274440001583d034a43b000383a153c4340002834211042a21b842721b64262228424001582400028241a7a420034841d000281d0190411001581100028110000c00,
  0x26d84ab00028aa00158a500028a5004045c001585c0e6c44f0274440001583d034a43b000383a2908433290643229044311a7e43014e042f1d6042d26be420291641f291441e1a1040d1a6c40c1a6640b29124091c4040629404050000c00,
  0x26d84ab00028aa00158a500028a5004045c001585c0d0a44f0274440001583d034a43b000383a2908433290643229044311a7e43014e042f1d6042d26be420291641f291441e1a1040d1a6c40c1a6640b29124091c4040629404050000c00,
  0x26d84ab00028aa00158a500028a5004045c001585c0d3844f0274440001583d034a43b000383a2908433290643229044311a7e43014e042f1d6042d26be420291641f291441e1a1040d1a6c40c1a6640b29124091c4040629404050000c00,
  0x28ac01664a629104a3004045c0274440031a43b000383a220c4342908433290643229044311c4243014e042f1d6042d26be420291641f291441e1a1040d1a6c40c1a6640b291240918164071c40406220e4050000c00,
  0x28ac01704a629104a3006045c0274440031a43b000383a220c4342908433290643229044311c4243014e042f1d6042d26be420291641f291441e1a1040d1a6c40c1a6640b291240918164071c40406220e4050000c00,
  0x1c504ad1c524a900028a700158a500028a5004045c001585c150a45514a44530e6c44f148e4470274440001583d034a43b000383a153c434000283421b842721b6426148c41f034841d000281d0000c00,
  0x1c504ad1c524a900028a700158a500028a5004045c001585c150a45514a44530d0a44f148e4470274440001583d034a43b000383a153c434000283421b842721b6426148c41f034841d000281d0000c00]

/-- The rows of actions 320 to 383. -/
def rows5 : Array Nat := #[
  0x1c504ad1c524a900028a700158a500028a5004045c001585c150a45514a44530d3844f148e4470274440001583d034a43b000383a153c434000283421b842721b6426148c41f034841d000281d0000c00,
  0x1c504ae1c524a900028a700158a500028a5004045c001585c14a44530e6c44f0274440001583d034a43b000383a153c434000283421b842721b6426148c41f034841d000281d0000c00,
  0x1c504b000028af1c524a900158a500028a5004045c001585c0e6c44f0274440001583d034a43b000383a21b842721b6426034841d000281d0000c00,
  0x1c504ae1c524a900028a700158a500028a5004045c001585c14a44530d0a44f0274440001583d034a43b000383a153c434000283421b842721b6426148c41f034841d000281d0000c00,
  0x1c504b000028af1c524a900158a500028a5004045c001585c0d0a44f0274440001583d034a43b000383a21b842721b6426034841d000281d0000c00,
  0x1c504ae1c524a900028a700158a500028a5004045c001585c14a44530d3844f0274440001583d034a43b000383a153c434000283421b842721b6426148c41f034841d000281d0000c00,
  0x1c504b000028af1c524a900158a500028a5004045c001585c0d3844f0274440001583d034a43b000383a21b842721b6426034841d000281d0000c00,
  0x28b126d84ab004045c0274440031c43b000383a2908433290643229044311a7e43014e042f1d6042d26be420291641f291441e1a1040d1a6c40c1a6640b29124091c4040629404050000c00,
  0x408b20000c00, 0xa58b20000c00,
  0x28b126d84ab006045c0274440031c43b000383a2908433290643229044311a7e43014e042f1d6042d26be420291641f291441e1a1040d1a6c40c1a6640b29124091c4040629404050000c00,
  0x8e8b30000c00, 0x1038b30000c00, 0x14b8b30000c00, 0x1828b30000c00, 0x19e8b30000c00,
  0x1c8b400028a700158a500028a5004045c001585c0e6c44f0274440001583d034a43b000383a0000c00,
  0x1d8b400028a700158a500028a5004045c001585c0e6c44f0274440001583d034a43b000383a0000c00,
  0x28b526d84ab02aa44003b443b000383a2908433290643229044311a7e43014e042f1d6042d26be420291641f291441e1a1040d1a6c40c1a6640b29124091c4040629404050000c00,
  0x1c8b400028a700158a500028a5004045c001585c0d0a44f0274440001583d034a43b000383a0000c00,
  0x1d8b400028a700158a500028a5004045c001585c0d0a44f0274440001583d034a43b000383a0000c00,
  0x28b528044ab02aa44003b443b000383a2aae4332aac4322b2e4311bd643014f842f1d6042d28ec4202b7e41f2ab041e1a5a40d1c0e40c1c0c40b2b7c4091ce84062b444050000c00,
  0x1c8b400028a700158a500028a5004045c001585c0d3844f0274440001583d034a43b000383a0000c00,
  0x1d8b400028a700158a500028a5004045c001585c0d3844f0274440001583d034a43b000383a0000c00,
  0x2aea4b700028b6002386602d4440044a43b002383b000383a2aec42a222842400028241c12420019041100028110000c00,
  0x2aea4b700028b6006186602d4440044a43b000383a2aec42a222842400028241c12420019041100028110000c00,
  0x28b82ada4b702bc44003e643b000383a2adc42a222842400028241c12420019041100028110000c00,
  0x28b82ada4b702bc440044a43b000383a2adc42a222842400028241c12420019041100028110000c00,
  0x29284b700028aa004045c0274440031c43b000383a292a42a222842400028241a7a420019041100028110000c00,
  0x28b929284b70274440031c43b000383a292a42a222842400028241a86420019041100028110000c00,
  0x29ea4b700028b6029e440002383d002383c000283c036c43b002383b000383a29ec42a222842400028241c12420019041100028110000c00,
  0x2ada4b700028b6006186a000286a006185c02bc44003e643b000383a2adc42a222842400028241c12420019041100028110000c00,
  0x28b929284b70274440044a43b000383a292a42a222842400028241a86420019041100028110000c00,
  0x29284b700028aa006045c0274440031c43b000383a292a42a222842400028241c2a420019041100028110000c00,
  0x28ba2b664b702c8440041c43b000383a2b6842a222842400028241a86420019041100028110000c00,
  0x28ba2b664b702c8440044a43b000383a2b6842a222842400028241a86420019041100028110000c00,
  0x28bb2ada4b7028e46d028e46c000286c02bc44003e643b000383a2adc42a222842400028241c12420019041100028110000c00,
  0x2b184b700028b607e245c00238590002859002384e02f844004e243b002383b000383a2b1a42a222842400028241c12420019041100028110000c00,
  0x28bc29ea4b7029e440036c43b000383a29ec42a222842400028241c12420019041100028110000c00,
  0x28bc29ea4b7029e440044a43b000383a29ec42a222842400028241c12420019041100028110000c00,
  0x28bd2afa4b702e0440047e43b000383a2afc42a222842400028241c12420019041100028110000c00,
  0x28bd2afa4b702e0440044a43b000383a2afc42a222842400028241c12420019041100028110000c00,
  0x2ada4b700028b6002386a000286a02bc44003e643b002383b000383a2adc42a222842400028241c12420019041100028110000c00,
  0x27004bf225e4be002a8920000c00,
  0x28c02b364b702aa44003b443b000383a2b3842a222842400028241a7a420019041100028110000c00,
  0x608c105de4940000c00, 0x188c105dc4940000c00,
  0x28c22b184b707e245c02f844004e243b000383a2b1a42a222842400028241c12420019041100028110000c00,
  0x28c22b184b707f645c02f844004e243b000383a2b1a42a222842400028241c12420019041100028110000c00,
  0x2b184b700028b600238590002859002384e02f844004e243b002383b000383a2b1a42a222842400028241c12420019041100028110000c00,
  0x28c02b364b702aa44003b443b000383a2b3842a222842400028241a86420019041100028110000c00,
  0x28c02b364b702aa440044a43b000383a2b3842a222842400028241a86420019041100028110000c00,
  0x28c02b364b702aa44003b443b000383a2b3842a222842400028241c2a420019041100028110000c00,
  0x28c02b364b702aa44003b443b000383a2b3842a222842400028241c38420019041100028110000c00,
  0x608c10000c00, 0xce8c10000c00, 0x818c30000c00, 0xf08c30000c00, 0x608c30000c00,
  0x188c405e44940000c00, 0xce8c30000c00, 0x608c405e84940000c00,
  0x28c52b0a4b702ec44004b043b000383a2b0c42a222842400028241c12420019041100028110000c00,
  0x28c22b184b702f844004e243b000383a2b1a42a222842400028241c12420019041100028110000c00]

/-- The rows of actions 384 to 447. -/
def rows6 : Array Nat := #[
  0x28c52b0a4b702ec440044a43b000383a2b0c42a222842400028241c12420019041100028110000c00,
  0x28c22b184b702f8440044a43b000383a2b1a42a222842400028241c12420019041100028110000c00,
  0x28c62b244b70304440051243b000383a2b2642a222842400028241c12420019041100028110000c00,
  0x28c62b244b70304440044a43b000383a2b2642a222842400028241c12420019041100028110000c00,
  0x2aea4b700028b6006185c02d4440044a43b000383a2aec42a222842400028241c12420019041100028110000c00,
  0x28c72aea4b7028e46d028e46c000286c02d4440044a43b000383a2aec42a222842400028241c12420019041100028110000c00,
  0x2aea4b700028b602d4440035443b000383a2aec42a222842400028241c12420019041100028110000c00,
  0x27004bf00778920000c00, 0x138c829fe45b00244070000c00, 0x138c82a0045b00244070000c00,
  0x2aea4b700028b602d4440039043b000383a2aec42a222842400028241c12420019041100028110000c00,
  0x2aea4b700028b602d4440040a43b000383a2aec42a222842400028241c12420019041100028110000c00,
  0x2aea4b700028b602d4440046a43b000383a2aec42a222842400028241c12420019041100028110000c00,
  0x2aea4b700028b602d4440049e43b000383a2aec42a222842400028241c12420019041100028110000c00,
  0x2aea4b700028b602d444004d043b000383a2aec42a222842400028241c12420019041100028110000c00,
  0x2aea4b700028b602d4440044a43b000383a2aec42a222842400028241c12420019041100028110000c00,
  0x2aea4b700028b602d4440050243b000383a2aec42a222842400028241c12420019041100028110000c00,
  0x2aea4b700028b602d4440053243b000383a2aec42a222842400028241c12420019041100028110000c00,
  0x2aea4b700028b602d444003d843b000383a2aec42a222842400028241c12420019041100028110000c00,
  0x2aea4b700028b602d4440043e43b000383a2aec42a222842400028241c12420019041100028110000c00,
  0x58c90000c00, 0x4e4cb006e8ca0000c00, 0x6a849400858920000c00, 0xe58cc06d64a10000c00,
  0xe68cd0000c00, 0x6d849400f28920000c00, 0x6da49400f28920000c00, 0x6e249400fc8920000c00,
  0x6f4494012a8920000c00, 0x70049401438920000c00, 0x70249401498920000c00, 0x704494014a8920000c00,
  0x71049401688920000c00, 0x71249401688920000c00, 0x71e49401808920000c00, 0x726494018d8920000c00,
  0x1958cd0000c00, 0x1aa8cd0000c00, 0x138c800244070000c00, 0xc28ce0000c00, 0xc38ce0000c00,
  0x728cf0000c00, 0xdf8cf0000c00, 0x98920000c00, 0xb8920000c00, 0x128920000c00, 0x2b8920000c00,
  0x2c8920000c00, 0x2d8920000c00, 0x2e8920000c00,
  0x162848416164830aae4821636459293a44b08d444a2b8244908d0447162a44501304411a1443f08d243d293443908ce43808cc43716264342b8c43117a242a1d6c42821b842721b6426222842421fe421065641d00ac411163040d222c4090000c00,
  0x468920000c00, 0x478920000c00, 0x4a8920000c00, 0x528920000c00, 0x578920000c00, 0x698920000c00,
  0x6a8920000c00, 0x6c8920000c00, 0x6d8920000c00, 0x6f8920000c00, 0x708920000c00, 0x768920000c00,
  0x778920000c00]

/-- The rows of actions 448 to 511. -/
def rows7 : Array Nat := #[
  0x788920000c00, 0x798920000c00, 0x7a8920000c00, 0x7b8920000c00, 0xae8920000c00, 0xaf8920000c00,
  0xb08920000c00, 0xbf8920000c00, 0xd08920000c00, 0xd88920000c00, 0xd98920000c00, 0xda8920000c00,
  0xdb8920000c00, 0xdc8920000c00, 0xde8920000c00, 0xe78920000c00, 0xe88920000c00, 0xf28920000c00,
  0xfb8920000c00,
  0x162848416164830aae4821662459293a44b08d444a2b8244908d0447162a44501304411a1443f08d243d293443908ce43808cc43716264342b8c43117a242a1d6c42821b842721b6426222842421fe421065641d00ac411163040d222c4090000c00,
  0x1208920000c00, 0x1238920000c00, 0x1248920000c00, 0x12b8920000c00, 0x12f8920000c00,
  0x1318920000c00, 0x1368920000c00, 0x1378920000c00, 0x1398920000c00, 0x13e8920000c00,
  0x1438920000c00, 0x1478920000c00, 0x1498920000c00,
  0x162848416164830aae482166a459293a44b08d444a2b8244908d0447162a44501304411a1443f08d243d293443908ce43808cc43716264342b8c43117a242a1d6c42821b842721b6426222842421fe421065641d00ac411163040d222c4090000c00,
  0x15c8920000c00, 0x15f8920000c00, 0x1608920000c00, 0x1688920000c00, 0x16a8920000c00,
  0x16d8920000c00, 0x16f8920000c00, 0x1778920000c00, 0x17e8920000c00, 0x1818920000c00,
  0x1808920000c00, 0x1888920000c00, 0x18b8920000c00, 0x18d8920000c00, 0x18f8920000c00,
  0x1948920000c00, 0x19d8920000c00, 0x1a38920000c00, 0x1a48920000c00, 0x1a58920000c00,
  0x1a68920000c00, 0x1a98920000c00, 0x1b48920000c00, 0x148920000c00, 0x598920000c00,
  0x818920000c00, 0xf08920000c00,
  0x162848416164830aae4820ede459293a44b08d444a2b8244908d0447162a44501304411a1443f08d243d293443908ce43808cc43716264342b8c43117a242a1d6c42821b842721b6426222842421fe421065641d00ac411163040d222c4090000c00,
  0x162848416164830aae4820f70459293a44b08d444a2b8244908d0447162a44501304411a1443f08d243d293443908ce43808cc43716264342b8c43117a242a1d6c42821b842721b6426222842421fe421065641d00ac411163040d222c4090000c00,
  0x162848416164830aae4820f82459293a44b08d444a2b8244908d0447162a44501304411a1443f08d243d293443908ce43808cc43716264342b8c43117a242a1d6c42821b842721b6426222842421fe421065641d00ac411163040d222c4090000c00]

/-- The rows of actions 512 to 575. -/
def rows8 : Array Nat := #[
  0x162848416164830aae482183a459293a44b08d444a2b8244908d0447162a44501304411a1443f08d243d293443908ce43808cc43716264342b8c43117a242a1d6c42821b842721b6426222842421fe421065641d00ac411163040d222c4090000c00,
  0x162848416164830aae482186e459293a44b08d444a2b8244908d0447162a44501304411a1443f08d243d293443908ce43808cc43716264342b8c43117a242a1d6c42821b842721b6426222842421fe421065641d00ac411163040d222c4090000c00,
  0x162848416164830aae4821880459293a44b08d444a2b8244908d0447162a44501304411a1443f08d243d293443908ce43808cc43716264342b8c43117a242a1d6c42821b842721b6426222842421fe421065641d00ac411163040d222c4090000c00,
  0x162848416164830aae4820c1c459293a44b08d444a2b8244908d0447162a44501304411a1443f08d243d293443908ce43808cc43716264342b8c43117a242a1d6c42821b842721b6426222842421fe421065641d00ac411163040d222c4090000c00,
  0x162848416164830aae4820c76459293a44b08d444a2b8244908d0447162a44501304411a1443f08d243d293443908ce43808cc43716264342b8c43117a242a1d6c42821b842721b6426222842421fe421065641d00ac411163040d222c4090000c00,
  0x162848416164830aae4820c84459293a44b08d444a2b8244908d0447162a44501304411a1443f08d243d293443908ce43808cc43716264342b8c43117a242a1d6c42821b842721b6426222842421fe421065641d00ac411163040d222c4090000c00,
  0x162848416164830aae482199c459293a44b08d444a2b8244908d0447162a44501304411a1443f08d243d293443908ce43808cc43716264342b8c43117a242a1d6c42821b842721b6426222842421fe421065641d00ac411163040d222c4090000c00,
  0x162848416164830aae48219d0459293a44b08d444a2b8244908d0447162a44501304411a1443f08d243d293443908ce43808cc43716264342b8c43117a242a1d6c42821b842721b6426222842421fe421065641d00ac411163040d222c4090000c00,
  0x162848416164830aae48219e0459293a44b08d444a2b8244908d0447162a44501304411a1443f08d243d293443908ce43808cc43716264342b8c43117a242a1d6c42821b842721b6426222842421fe421065641d00ac411163040d222c4090000c00,
  0x162848416164830aae482293a44b08d444a2b8244908d0447162a44501304411a1443f08d243d293443908ce43808cc43716264342b8c43117a242a1d6c42821b842721b6426222842421fe421065641d00ac411163040d222c4090000c00,
  0x16d24d0162848416164830aae482293a44b07be44a293844907ba44716d04451a1443f07bc43d293443907b843807b64371626434293643115f442a1d6c42821b842721b642622284242104421065641d00ac411163040d222c4090000c00,
  0x1758d10000c00, 0x1768d10000c00, 0x1938d10000c00, 0x1a88d10000c00,
  0x170c4d0198a48418d44830acc4822a7a44b086444a2a78449086044718c84451a5043f086243d2a76439085e438085c43719884342b76431174842a20b042821d242721d0426222842421ea421074c41d00b8411199240d222c4090000c00,
  0x728d10000c00,
  0x17144d00eb64840dec4830ac648229fa44b080c44a29f844908084470e084451a4243f080a43d29f6439080643808044370eb44342b3e4310d5242a207042820f242720f0426222842421dc421073a41d00b24110ec040d222c4090000c00,
  0xdf8d10000c00,
  0x17104d0182a48417ec4830ac84822a2444b082c44a2a22449082844717f64451a4843f082a43d2a204390826438082443718284342b6e431167242a20a442821984272196426222842421e2421074041d00b4411183240d222c4090000c00,
  0x17184d00c044840bc44830aca4822a5a44b084a44a2a5844908464470bd24451a4c43f084843d2a56439084443808424370c024342b724310bb642a20ac42821a842721a6426222842421e6421074641d00b64110c0e40d222c4090000c00,
  0x171a4d0162848416164830ace482293a44b087e44a2b40449087a4471c164451a5c43f087c43d29344390878438087643716264342b8043118e242a1d6c42821c842721c6426222842421f0421065641d00ac411163040d222c4090000c00,
  0x171c4d0162848416164830aae482293a44b08d444a2b8244908d04471a624451a1443f08d243d293443908ce43808cc43716264342b8c43118ae42a1d6c42821b842721b6426222842421fe421065641d00ac411163040d222c4090000c00,
  0x162848416164830aae482293a44b07be44a293844907ba447162a4451a1443f07bc43d293443907b843807b643716264342936431171e42a1d6c42821b842721b642622284242104421065641d00ac4111a7c40d222c4090000c00,
  0x9064d2162848416164830aae482293a44b07be44a293844907ba447162a4451a1443f07bc43d293443907b843807b64371626434293643115ee42a1d6c42821b842721b642622284242104421065641d00ac411163040d222c4090000c00,
  0x162848416164830aae4821656459293a44b07be44a293844907ba447162a4451a1443f07bc43d293443907b843807b64371626434293643115ee42a1d6c42821b842721b642622284242104421065641d00ac411163040d222c4090000c00,
  0x9084d2162848416164830aae482293a44b07be44a293844907ba447162a4451a1443f07bc43d293443907b843807b64371626434293643115ee42a1d6c42821b842721b642622284242104421065641d00ac411163040d222c4090000c00,
  0xb18d30000c00, 0x1258d30000c00, 0x1628d30000c00,
  0xf544d2162848416164830aae482293a44b07be44a293844907ba447162a4451a1443f07bc43d293443907b843807b64371626434293643115ee42a1d6c42821b842721b642622284242104421065641d00ac411163040d222c4090000c00,
  0x162848416164830aae4820f5a459293a44b07be44a293844907ba447162a4451a1443f07bc43d293443907b843807b64371626434293643115ee42a1d6c42821b842721b642622284242104421065641d00ac411163040d222c4090000c00,
  0xf764d2162848416164830aae482293a44b07be44a293844907ba447162a4451a1443f07bc43d293443907b843807b64371626434293643115ee42a1d6c42821b842721b642622284242104421065641d00ac411163040d222c4090000c00,
  0xbf84d2162848416164830aae482293a44b07be44a293844907ba447162a4451a1443f07bc43d293443907b843807b64371626434293643115ee42a1d6c42821b842721b642622284242104421065641d00ac411163040d222c4090000c00,
  0x162848416164830aae4821868459293a44b07be44a293844907ba447162a4451a1443f07bc43d293443907b843807b64371626434293643115ee42a1d6c42821b842721b642622284242104421065641d00ac411163040d222c4090000c00,
  0xbfa4d2162848416164830aae482293a44b07be44a293844907ba447162a4451a1443f07bc43d293443907b843807b64371626434293643115ee42a1d6c42821b842721b642622284242104421065641d00ac411163040d222c4090000c00,
  0x17fe4d2162848416164830aae482293a44b07be44a293844907ba447162a4451a1443f07bc43d293443907b843807b64371626434293643115ee42a1d6c42821b842721b642622284242104421065641d00ac411163040d222c4090000c00,
  0x162848416164830aae4820c62459293a44b07be44a293844907ba447162a4451a1443f07bc43d293443907b843807b64371626434293643115ee42a1d6c42821b842721b642622284242104421065641d00ac411163040d222c4090000c00,
  0x18004d2162848416164830aae482293a44b07be44a293844907ba447162a4451a1443f07bc43d293443907b843807b64371626434293643115ee42a1d6c42821b842721b642622284242104421065641d00ac411163040d222c4090000c00,
  0x19c64d2162848416164830aae482293a44b07be44a293844907ba447162a4451a1443f07bc43d293443907b843807b64371626434293643115ee42a1d6c42821b842721b642622284242104421065641d00ac411163040d222c4090000c00,
  0x162848416164830aae48219cc459293a44b07be44a293844907ba447162a4451a1443f07bc43d293443907b843807b64371626434293643115ee42a1d6c42821b842721b642622284242104421065641d00ac411163040d222c4090000c00,
  0x19d64d2162848416164830aae482293a44b07be44a293844907ba447162a4451a1443f07bc43d293443907b843807b64371626434293643115ee42a1d6c42821b842721b642622284242104421065641d00ac411163040d222c4090000c00,
  0x19f24d2162848416164830aae482293a44b07be44a293844907ba447162a4451a1443f07bc43d293443907b843807b64371626434293643115ee42a1d6c42821b842721b642622284242104421065641d00ac411163040d222c4090000c00,
  0x19f44d2162848416164830aae482293a44b07be44a293844907ba447162a4451a1443f07bc43d293443907b843807b64371626434293643115ee42a1d6c42821b842721b642622284242104421065641d00ac411163040d222c4090000c00,
  0x162848416164830aae482293a44b07be44a293844907ba447162a4451a1443f07bc43d293443907b843807b64371626434293643115ee42a1d6c42821b842721b642622284242104421065641d00ac411163040d222c4090000c00,
  0xeb64840dec4830ac648229fa44b080c44a29f844908084470eb84451a4243f080a43d29f6439080643808044370eb44342b3e4310df442a207042820f242720f0426222842421dc421073a41d00b24110e7e40d222c4090000c00,
  0xeb64840dec4830ac648229fa44b080c44a29f844908084470eb84451a4243f080a43d29f6439080643808044370eb44342b3e4310df442a207042820f242720f0426222842421dc421073a41d00b24110ec040d222c4090000c00,
  0x182a48417ec4830ac84822a2444b082c44a2a224490828447182c4451a4843f082a43d2a204390826438082443718284342b6e431170a42a20a442821984272196426222842421e2421074041d00b4411183240d222c4090000c00,
  0x162848416164830aae482293a44b08d444a2b8244908d0447162a4451a1443f08d243d293443908ce43808cc43716264342b8c43115ee42a1d6c42821b842721b6426222842421fe421065641d00ac411163040d222c4090000c00,
  0x162848416164830ace482293a44b087e44a2b40449087a447162a4451a5c43f087c43d29344390878438087643716264342b8043119fe42a1d6c42821c842721c6426222842421f0421065641d00ac411163040d222c4090000c00,
  0xeb64840dec4830ac648229fa44b080c44a293844907ba4470eb84451a4243f080a43d29f6439080643808044370eb443429364310df442a207042820f242720f042622284242104421073a41d00b24110ec040d222c4090000c00,
  0x198a48418d44830acc4822a7a44b086444a2a784490860447198c4451a5043f086243d2a76439085e438085c43719884342b76431180442a20b042821d242721d0426222842421ea421074c41d00b8411199240d222c4090000c00,
  0x182a48417ec4830ac84822a2444b082c44a293844907ba447182c4451a4843f082a43d2a204390826438082443718284342936431170a42a20a44282198427219642622284242104421074041d00b4411183240d222c4090000c00,
  0xc044840bc44830aca4822a5a44b084a44a2a5844908464470c064451a4c43f084843d2a56439084443808424370c024342b724310bcc42a20ac42821a842721a6426222842421e6421074641d00b64110c0e40d222c4090000c00,
  0xc044840bc44830aca4822a5a44b084a44a293844907ba4470c064451a4c43f084843d2a56439084443808424370c0243429364310bcc42a20ac42821a842721a642622284242104421074641d00b64110c0e40d222c4090000c00,
  0x198a48418d44830acc4822a7a44b086444a293844907ba447198c4451a5043f086243d2a76439085e438085c43719884342936431180442a20b042821d242721d042622284242104421074c41d00b8411199240d222c4090000c00,
  0x162848416164830ace482293a44b087e44a293844907ba447162a4451a5c43f087c43d2934439087843808764371626434293643119fe42a1d6c42821c842721c642622284242104421065641d00ac411163040d222c4090000c00,
  0xc044840bc44830aca4822a5a44b084a44a2a5844908464470c064451a4c43f084843d2a56439084443808424370c024342b724310bcc42a20ac42821a842721a6426222842421e6421074641d00b64110be240d222c4090000c00,
  0x162848416164830aae482293a44b08d444a293844907ba447162a4451a1443f08d243d293443908ce43808cc4371626434293643115ee42a1d6c42821b842721b642622284242104421065641d00ac411163040d222c4090000c00,
  0x5864d518064d4172a4a9116445511624540dde4530c9c4520e9a44f091a44e0d3444703204412966439159c434296c4311d6042d21984272196426222842416dc4210d3241f01e441d0b6c41201984110fbc4070b804040000c00,
  0x18364d5180c4d4172a4a9117c455117a4540e1a4530d244520e0e44f091c44e0d8e44703204412966439159c434296c4311d6042d21984272196426222842417124210d8c41f01e441d0b7241201984110fbc4070b8e4040000c00,
  0x5864d518084d4172a4a9116c455116a4540dfc4530ce64520dfa44f091a44e0d4a44703204412966439159c434296c4311d6042d21984272196426222842417064210d4841f01e441d0b6c41201984110fbc4070b824040000c00,
  0x5864d5180a4d4172a4a9117845511764540e144530d224520bf044f091a44e0d5644703204412966439159c434296c4311d6042d219842721964262228424170e4210d5441f01e441d0b6c41201984110fbc4070b884040000c00,
  0x5864d5180c4d4172a4a9117c455117a4540e1a4530d244520f9644f091a44e0d8e44703204412966439159c434296c4311d6042d21984272196426222842417124210d8c41f01e441d0b6c41201984110fbc4070b8e4040000c00]

/-- The rows of actions 576 to 639. -/
def rows9 : Array Nat := #[
  0x5864d5180c4d4172a4a9117c455117a4540e1a4530d244520fa644f091a44e0d8e44703204412966439159c434296c4311d6042d21984272196426222842417124210d8c41f01e441d0b6c41201984110fbc4070b8e4040000c00,
  0x5864d5180c4d4172a4a9117c455117a4540e1a4530d244520fb044f091a44e0d8e44703204412966439159c434296c4311d6042d21984272196426222842417124210d8c41f01e441d0b6c41201984110fbc4070b8e4040000c00,
  0x5864d518064d4172a4a9116445511624540dde4530c9c452116e44f091a44e0d3444703204412966439159c434296c4311d6042d21984272196426222842416dc4210d3241f01e441d0b6c41201984110fbc4070b804040000c00,
  0x5864d518084d4172a4a9116c455116a4540dfc4530ce6452117244f091a44e0d4a44703204412966439159c434296c4311d6042d21984272196426222842417064210d4841f01e441d0b6c41201984110fbc4070b824040000c00,
  0x5864d5180e4d4172a4a91180455117e4540e1e4530d264520fb044f091a44e0d9244703204412966439159c434296c4311d6042d21984272196426222842417164210d9041f01e441d0b6c41201984110fbc4070b944040000c00,
  0x5864d5180a4d4172a4a9117845511764540e144530d22452126244f091a44e0d5644703204412966439159c434296c4311d6042d219842721964262228424170e4210d5441f01e441d0b6c41201984110fbc4070b884040000c00,
  0x5864d5180a4d4172a4a9117845511764540e144530d224520f9644f091a44e0d5644703204412966439159c434296c4311d6042d219842721964262228424170e4210d5441f01e441d0b6c41201984110fbc4070b884040000c00,
  0x28aa00158a500028a5004045c001585c0e6c44f0274440001583d034a43b000383a018842a217642721744260000c00,
  0x28af00158a500028a5004045c001585c0e6c44f0274440001583d034a43b000383a1a1242a01ea41d0e624070000c00,
  0x28aa00158a500028a5004045c001585c0e6c44f0274440001583d034a43b000383a060042a21b842721b64260000c00,
  0xa38d60000c00, 0x1158d60000c00, 0x1588d60000c00,
  0x28aa00158a500028a5004045c001585c0d0a44f0274440001583d034a43b000383a018842a217642721744260000c00,
  0x28af00158a500028a5004045c001585c0d0a44f0274440001583d034a43b000383a1a1242a01ea41d0e624070000c00,
  0x28aa00158a500028a5004045c001585c0d0a44f0274440001583d034a43b000383a060042a21b842721b64260000c00,
  0x28aa00158a500028a5004045c001585c0d3844f0274440001583d034a43b000383a018842a217642721744260000c00,
  0x28af00158a500028a5004045c001585c0d3844f0274440001583d034a43b000383a1a1242a01ea41d0e624070000c00,
  0x28aa00158a500028a5004045c001585c0d3844f0274440001583d034a43b000383a060042a21b842721b64260000c00,
  0x28d7002386602d4440044a43b002383b000383a0bfc42a21a842721a64260000c00,
  0x28d7006186602d4440044a43b000383a0bfc42a21a842721a64260000c00,
  0x18c64d4172a4a900178710016871136c455136a45410c44530de44520ea644703204412966439159c434296c4311d6042d21984272196426222842417b24210ea441f01e441d01984110fbc4070bae4040000c00,
  0x28d802bc44003e643b000383a0bfc42a21a842721a64260000c00,
  0x28d802bc440044a43b000383a0bfc42a21a842721a64260000c00,
  0x28b1004045c0274440031c43b000383a018842a217642721744260000c00,
  0x28d9004045c0274440031c43b000383a1a1242a01ea41d0e624070000c00,
  0x28b1004045c0274440031c43b000383a060042a21b842721b64260000c00,
  0x28da0274440031c43b000383a0be842a20f242720f04260000c00,
  0x28d7029e440002383d002383c000283c036c43b002383b000383a0bfc42a21a842721a64260000c00,
  0x28d7006186a000286a006185c02bc44003e643b000383a0bfc42a21a842721a64260000c00,
  0x28da0274440044a43b000383a0bfc42a21a842721a64260000c00,
  0x28b1006045c0274440031c43b000383a0be842a20f242720f04260000c00,
  0x28d9006045c0274440031c43b000383a1a1242a01ea41d0e624070000c00,
  0x28b1006045c0274440031c43b000383a060042a21b842721b64260000c00,
  0x28db02c8440041c43b000383a0be842a20f242720f04260000c00,
  0x28db02c8440044a43b000383a0bfc42a21a842721a64260000c00,
  0x28aa00158a500028a5004045c001585c0e6c44f0274440001583d034a43b000383a221042a0000c00,
  0x28dc028e46d028e46c000286c02bc44003e643b000383a0bfc42a21a842721a64260000c00,
  0x28dd028e46d028e46c000286c02bc44003e643b000383a18c042a01ea41d0e624070000c00,
  0x28d707e245c00238590002859002384e02f844004e243b002383b000383a0bfc42a21a842721a64260000c00,
  0x1128df00b28de0000c00, 0x1138df00b38de0000c00, 0x4b8e00000c00, 0xb28e00000c00, 0xb38e00000c00,
  0x1268e00000c00, 0x1648e00000c00, 0x28e1029e440036c43b000383a0bfc42a21a842721a64260000c00,
  0x28aa00158a500028a5004045c001585c0d0a44f0274440001583d034a43b000383a221042a0000c00,
  0x28aa00158a500028a5004045c001585c0d3844f0274440001583d034a43b000383a221042a0000c00,
  0x28e1029e440044a43b000383a0bfc42a21a842721a64260000c00,
  0x28e202e0440047e43b000383a0bfc42a21a842721a64260000c00,
  0x28e202e0440044a43b000383a0bfc42a21a842721a64260000c00,
  0x28d7002386a000286a02bc44003e643b002383b000383a0bfc42a21a842721a64260000c00,
  0x78aa00158a500078a5004045c001585c0e6c44f027c440001583d034c43b000883a0000c00,
  0x28aa00158a500028a5004045c001585c0e6c44f0274440001583d034a43b000383a0000c00,
  0x28e302aa44003b443b000383a1a1242a01ea41d0e624070000c00,
  0x28b502aa44003b443b000383a060042a21b842721b64260000c00,
  0x28e407e245c02f844004e243b000383a0bfc42a21a842721a64260000c00,
  0x28e407f645c02f844004e243b000383a0bfc42a21a842721a64260000c00,
  0x28b502aa44003b443b000383a018842a217642721744260000c00,
  0x28d700238590002859002384e02f844004e243b002383b000383a0bfc42a21a842721a64260000c00,
  0x728e50000c00, 0xdf8e50000c00]

/-- The rows of actions 640 to 703. -/
def rows10 : Array Nat := #[
  0x26504e700078e60091898288c45b02be44003ea43b000883a08a442402104110000c00,
  0x78aa00158a500078a5004045c001585c0d0a44f027c440001583d034c43b000883a0000c00,
  0x28aa00158a500028a5004045c001585c0d0a44f0274440001583d034a43b000383a0000c00,
  0x28b502aa44003b443b000383a1a3442a219842721964260000c00,
  0x78aa00158a500078a5004045c001585c0d3844f027c440001583d034c43b000883a0000c00,
  0x28aa00158a500028a5004045c001585c0d3844f0274440001583d034a43b000383a0000c00,
  0x28b502aa44003b443b000383a0be842a20f242720f04260000c00,
  0x28b502aa440044a43b000383a0bfc42a21a842721a64260000c00,
  0x78e822a04e7009189e275445b02be44003ea43b000883a07c0424020c4110000c00,
  0x78e9044e43b000883a0000c00, 0x458ea297a45b07c0424020c4110000c00,
  0x3b8ec00078ec00078eb003b8df003b86f002586f000786f080e45c297045b000785b02be440276243d003b83d03ea43b002583b000883a07c042400078240000c00,
  0x78ed22a04e7009189e275445b027c440032643b000883a07c0424020c4110000c00,
  0x3b8ee003b8ec00078ec00078eb003b871002587100078712a3045b000785b02be44003ea43b002583b000883a08a442400078240000c00,
  0x3b8f000078f000078ef003b8df297045b000785b02be44003ea43b000883a07c042400078240000c00,
  0x78f122a04e7009189e275445b02ca440042043b000883a07c0424020c4110000c00,
  0x28f202ec44004b043b000383a0bfc42a21a842721a64260000c00,
  0x28e402f844004e243b000383a0bfc42a21a842721a64260000c00,
  0x28f202ec440044a43b000383a0bfc42a21a842721a64260000c00,
  0x28e402f8440044a43b000383a0bfc42a21a842721a64260000c00,
  0x28f30304440051243b000383a0bfc42a21a842721a64260000c00,
  0x28f30304440044a43b000383a0bfc42a21a842721a64260000c00,
  0x28d7006185c02d4440044a43b000383a0bfc42a21a842721a64260000c00,
  0x28f4028e46d028e46c000286c02d4440044a43b000383a0bfc42a21a842721a64260000c00,
  0x28d702d4440035443b000383a0bfc42a21a842721a64260000c00, 0x518f51d6142d005182d0000c00,
  0x258f6003b8ec00078ec00078eb003b8df003b8640025864297045b000785b02d6440044e43b002583b000883a07c042400078240000c00,
  0x78f7003b8f000078f0003b8df297045b000785b027c440032643b000883a07c042400078240000c00,
  0x28f8028e46d028e46c000286c02d4440044a43b000383a22be42a01ea41d000281d0e624070000c00,
  0x11e8f90000c00, 0x28d7002386602d4440044a43b002383b000383a0000c00,
  0x78d7002586602d6440044e43b002583b000883a0000c00, 0x28d7006186602d4440044a43b000383a0000c00,
  0x78d7006286602d6440044e43b000883a0000c00,
  0x258fa00078fa003b8ec00078ec00078eb003b8df003b86400258640007864297045b000785b02a0440002583d037043b002583b000883a07c042400078240000c00,
  0x78fb22a04e7009189e275445b02a0440037043b000883a07c0424020c4110000c00,
  0x398fd00028fc00398ec00028ec02bc44003e643b002383b000383a0000c00,
  0x918fe22a04e700078e6275445b02be44003ea43b000883a07c0424020c4110000c00,
  0x28d702d4440039043b000383a0bfc42a21a842721a64260000c00,
  0x78ff003b8f000078f0003b8df297045b000785b02ca440042043b000883a07c042400078240000c00,
  0x290000398f000028f000398df02bc44003e643b000383a0000c00,
  0x790122a04e7009189e275445b02ae44003b843b000883a07c0424020c4110000c00,
  0x28d702d4440040a43b000383a0bfc42a21a842721a64260000c00,
  0x28d702d4440046a43b000383a0bfc42a21a842721a64260000c00,
  0x790222a04e7009189e275445b02e2440048243b000883a07c0424020c4110000c00,
  0x28d702d4440049e43b000383a0bfc42a21a842721a64260000c00,
  0x28d702d444004d043b000383a0bfc42a21a842721a64260000c00,
  0x28d702d4440044a43b000383a0bfc42a21a842721a64260000c00,
  0x28d702d4440050243b000383a0bfc42a21a842721a64260000c00,
  0x28d702d4440053243b000383a0bfc42a21a842721a64260000c00,
  0x28d702d444003d843b000383a0bfc42a21a842721a64260000c00,
  0x91904000790322a04e7275445b02a0440037043b000883a07c0424020c4110000c00,
  0x28d702d4440043e43b000383a0bfc42a21a842721a64260000c00,
  0x28b1004045c0274440031c43b000383a221042a0000c00, 0x519051d6142d005182d18e041e005181e0000c00,
  0x3990600028fc00238f600398ec00028ec02d4440044a43b002383b000383a0000c00, 0xad9070000c00,
  0x290800398f000028f000398df0274440031c43b000383a0000c00,
  0x3b909003b8ec00078ec00078eb006285c297045b000785b02d6440044e43b000883a07c042400078240000c00,
  0x11f9070000c00, 0x78d70025866044e43b002583b000883a0000c00, 0x78d70062866044e43b000883a0000c00,
  0x3990600028fc00238fa00028fa00398ec00028ec029e440002383d036c43b002383b000383a0000c00,
  0x790a003b8f000078f0003b8df297045b000785b02a0440037043b000883a07c042400078240000c00]

/-- The rows of actions 704 to 767. -/
def rows11 : Array Nat := #[
  0x3b8ec00078ec00078eb003b8df006286f003b86f000786f006285c297045b000785b02be44003ea43b000883a07c042400078240000c00,
  0xb290b01128df0000c00, 0xb390b01138df0000c00,
  0x3b90e003b90d000790d000790c297045b000785b02ae44003b843b000883a07c042400078240000c00,
  0xb290f01128ee0000c00, 0xb390f01138ee0000c00, 0x28b1006045c0274440031c43b000383a221042a0000c00,
  0x291000398f000028f000398df02c8440041c43b000383a0000c00,
  0x7911003b8f000078f0003b8df297045b000785b02e2440048243b000883a07c042400078240000c00,
  0x28d802bc44003e643b000383a0000c00, 0x28d802bc440044a43b000383a0000c00,
  0x791222a04e7009189e275445b02ee44004b443b000883a07c0424020c4110000c00,
  0x791322a04e7009189e275445b02fa44004e643b000883a07c0424020c4110000c00,
  0x791422a04e7009189e275445b0306440051643b000883a07c0424020c4110000c00,
  0x9191522a04e700078e6275445b02d6440044e43b000883a07c0424020c4110000c00,
  0x91917000791622a04e7275445b02be44003ea43b000883a07c0424020c4110000c00,
  0x78d802be44003ea43b000883a0000c00, 0x78d802be440044e43b000883a0000c00,
  0x78b1004045c027c440032643b000883a0000c00, 0x28b1004045c0274440031c43b000383a0000c00,
  0xf9180000c00, 0x28da0274440031c43b000383a0000c00, 0x78da027c440032643b000883a0000c00,
  0x28d7029e440002383d002383c000283c036c43b002383b000383a0000c00,
  0x78d702a0440002583d002583c000783c037043b002583b000883a0000c00, 0x459180000c00, 0x4b90b0000c00,
  0x28d7006186a000286a006185c02bc44003e643b000383a0000c00, 0x7290b0000c00, 0xb290b0000c00,
  0xb390b0000c00, 0xdf90b0000c00,
  0x9190422a04e700078e6275445b02d6440044e43b000883a07c0424020c4110000c00,
  0x3990900028fc00398ec00028ec006185c02d4440044a43b000383a0000c00, 0x11d9180000c00,
  0x12690b0000c00, 0x16490b0000c00, 0x28da0274440044a43b000383a0000c00,
  0x291900398f000028f000398df029e440036c43b000383a0000c00,
  0x28fc00398ec00028ec00398df006186f003986f000286f006185c02bc44003e643b000383a0000c00,
  0x3991a00028fc00398ec00028ec02bc44003e643b002383b000383a0000c00, 0xb291b01129090000c00,
  0xb391b01139090000c00, 0x291c003990e003990d000290d02aa44003b443b000383a0000c00,
  0x3b91e000791e000791d003b8df297045b000785b02be44003ea43b000883a07c042400078240000c00,
  0x791f044e43b000883a0000c00, 0x78da027c440044e43b000883a0000c00,
  0x78b1006045c027c440032643b000883a0000c00, 0x28b1006045c0274440031c43b000383a0000c00,
  0x28db02c8440041c43b000383a0000c00, 0x28db02c8440044a43b000383a0000c00,
  0x292000398f000028f000398df02e0440047e43b000383a0000c00,
  0x792122a04e7009189e275445b02d6440044e43b000883a07c0424020c4110000c00,
  0x78db02ca440044e43b000883a0000c00, 0x78d803ea43b000883a0000c00,
  0x7922003b90e003b90d000790d297045b000785b02ee44004b443b000883a07c042400078240000c00,
  0x78db02ca440042043b000883a0000c00,
  0x7923003b90e003b90d000790d297045b000785b02fa44004e643b000883a07c042400078240000c00,
  0x7924003b90e003b90d000790d297045b000785b0306440051643b000883a07c042400078240000c00,
  0x78da032643b000883a0000c00, 0x78d7002583d002583c000783c037043b002583b000883a0000c00,
  0x28b502aa44003b443b000383a221042a0000c00, 0x78d7006286a000786a02be44003ea43b000883a0000c00,
  0x78d7006286a000786a006285c03ea43b000883a0000c00]

/-- The rows of actions 768 to 831. -/
def rows12 : Array Nat := #[
  0x28dc028e46d028e46c000286c02bc44003e643b000383a0000c00,
  0x78dc029046d029046c000786c02be44003ea43b000883a0000c00,
  0x28d707e245c00238590002859002384e02f844004e243b002383b000383a0000c00,
  0x78f407e446c07e645c00258590007859002584e02fa44004e643b002583b000883a0000c00,
  0x78e102a0440037043b000883a0000c00, 0x28e1029e440036c43b000383a0000c00,
  0x7925003b90e003b90d000790d297045b000785b02d6440044e43b000883a07c042400078240000c00,
  0x11292700b29260000c00, 0x11392700b39260000c00,
  0x2928003991e000291e00398df02bc44003e643b000383a0000c00, 0xb2929011290e0000c00,
  0xb3929011390e0000c00, 0x28e1029e440044a43b000383a0000c00, 0x28e202e0440047e43b000383a0000c00,
  0x28e202e0440044a43b000383a0000c00, 0x28d7002386a000286a02bc44003e643b002383b000383a0000c00,
  0x78d7002586a000786a02be44003ea43b002583b000883a0000c00,
  0x28b502aa44003b443b000383a26a642a0000c00, 0x78e102a0440044e43b000883a0000c00,
  0x292a003990e003990d000290d02ec44004b043b000383a0000c00, 0x78db042043b000883a0000c00,
  0x292b003990e003990d000290d02f844004e243b000383a0000c00,
  0x292c003990e003990d000290d0304440051243b000383a0000c00, 0x78e202e2440048243b000883a0000c00,
  0x78e202e2440044e43b000883a0000c00,
  0x58652e0b6c52d18204d417204a912184550e7445411fc4530e78452104044729664391542434296c4311d6042d219842721964262228424181a421103e41f028241d01984110baa4040000c00,
  0x78dc029046d029046c000786c03ea43b000883a0000c00, 0x28e407e245c02f844004e243b000383a0000c00,
  0x792f07e446c07e645c02fa44004e643b000883a0000c00, 0x28e407f645c02f844004e243b000383a0000c00,
  0x792f07e446c07f845c02fa44004e643b000883a0000c00, 0x78e1037043b000883a0000c00,
  0x28d700238590002859002384e02f844004e243b002383b000383a0000c00,
  0x78d700258590007859002584e02fa44004e643b002583b000883a0000c00,
  0x2930003990e003990d000290d02d4440044a43b000383a0000c00, 0xb2931011290e0000c00,
  0xb3931011390e0000c00,
  0xed052e0b7052d18204d417204a912184550e7445411fc4530e78452104044729664391542434296c4311d6042d219842721964262228424181a421103e41f028241d01984110baa4040000c00,
  0x183652e0b7252d18204d417204a912184550e7445411fc4530e78452104044729664391542434296c4311d6042d219842721964262228424181a421103e41f028241d01984110baa4040000c00,
  0xc1452e0b7452d18204d417204a912184550e7445411fc4530e78452104044729664391542434296c4311d6042d219842721964262228424181a421103e41f028241d01984110baa4040000c00,
  0x199852e0b7652d18204d417204a912184550e7445411fc4530e78452104044729664391542434296c4311d6042d219842721964262228424181a421103e41f028241d01984110baa4040000c00,
  0x1cdc52e0b7852d18204d417204a912184550e7445411fc4530e78452104044729664391542434296c4311d6042d219842721964262228424181a421103e41f028241d01984110baa4040000c00,
  0x28b502aa44003b443b000383a0000c00, 0x28b502aa440044a43b000383a0000c00,
  0x78b502ae440044e43b000883a0000c00, 0x78b502ae44003b843b000883a0000c00,
  0x78d7002586a000786a03ea43b002583b000883a0000c00, 0x78e2048243b000883a0000c00,
  0x78d700258590007859002584e04e643b002583b000883a0000c00, 0x28f202ec44004b043b000383a0000c00,
  0x28e402f844004e243b000383a0000c00, 0x28f202ec440044a43b000383a0000c00,
  0x28e402f8440044a43b000383a0000c00, 0x28f30304440051243b000383a0000c00,
  0x28f30304440044a43b000383a0000c00, 0x78b503b843b000883a0000c00,
  0x28d7006185c02d4440044a43b000383a0000c00,
  0x28f4028e46d028e46c000286c02d4440044a43b000383a0000c00,
  0x78f4029046d029046c000786c02d6440044e43b000883a0000c00, 0x78f202ee44004b443b000883a0000c00,
  0x78e402fa44004e643b000883a0000c00, 0x78f202ee440044e43b000883a0000c00,
  0x78e402fa440044e43b000883a0000c00, 0x78f30306440051643b000883a0000c00]

/-- The rows of actions 832 to 895. -/
def rows13 : Array Nat := #[
  0x78f30306440044e43b000883a0000c00, 0x28d702d4440035443b000383a0000c00,
  0x78d702d6440035643b000883a0000c00,
  0x58a52e18204d417204a912184550e7445411fc4530e78452104044729664391542434296c4311d6042d219842721964262228424181a421103e41f028241d01984110baa4040000c00,
  0x58c52e18204d417204a912184550e7445411fc4530e78452104044729664391542434296c4311d6042d219842721964262228424181a421103e41f028241d01984110baa4040000c00,
  0x58e52e18204d417204a912184550e7445411fc4530e78452104044729664391542434296c4311d6042d219842721964262228424181a421103e41f028241d01984110baa4040000c00,
  0x28d702d4440039043b000383a0000c00, 0x78d702d6440039243b000883a0000c00,
  0xf5c52e18204d417204a912184550e7445411fc4530e78452104044729664391542434296c4311d6042d219842721964262228424181a421103e41f028241d01984110baa4040000c00,
  0xf8052e18204d417204a912184550e7445411fc4530e78452104044729664391542434296c4311d6042d219842721964262228424181a421103e41f028241d01984110baa4040000c00,
  0xf8852e18204d417204a912184550e7445411fc4530e78452104044729664391542434296c4311d6042d219842721964262228424181a421103e41f028241d01984110baa4040000c00,
  0x186c52e18204d417204a912184550e7445411fc4530e78452104044729664391542434296c4311d6042d219842721964262228424181a421103e41f028241d01984110baa4040000c00,
  0x187e52e18204d417204a912184550e7445411fc4530e78452104044729664391542434296c4311d6042d219842721964262228424181a421103e41f028241d01984110baa4040000c00,
  0x188652e18204d417204a912184550e7445411fc4530e78452104044729664391542434296c4311d6042d219842721964262228424181a421103e41f028241d01984110baa4040000c00,
  0xc6452e18204d417204a912184550e7445411fc4530e78452104044729664391542434296c4311d6042d219842721964262228424181a421103e41f028241d01984110baa4040000c00,
  0xc8252e18204d417204a912184550e7445411fc4530e78452104044729664391542434296c4311d6042d219842721964262228424181a421103e41f028241d01984110baa4040000c00,
  0xc8a52e18204d417204a912184550e7445411fc4530e78452104044729664391542434296c4311d6042d219842721964262228424181a421103e41f028241d01984110baa4040000c00,
  0x19ce52e18204d417204a912184550e7445411fc4530e78452104044729664391542434296c4311d6042d219842721964262228424181a421103e41f028241d01984110baa4040000c00,
  0x19de52e18204d417204a912184550e7445411fc4530e78452104044729664391542434296c4311d6042d219842721964262228424181a421103e41f028241d01984110baa4040000c00,
  0x19e652e18204d417204a912184550e7445411fc4530e78452104044729664391542434296c4311d6042d219842721964262228424181a421103e41f028241d01984110baa4040000c00,
  0x1ce052e18204d417204a912184550e7445411fc4530e78452104044729664391542434296c4311d6042d219842721964262228424181a421103e41f028241d01984110baa4040000c00,
  0x1ce252e18204d417204a912184550e7445411fc4530e78452104044729664391542434296c4311d6042d219842721964262228424181a421103e41f028241d01984110baa4040000c00,
  0x1ce452e18204d417204a912184550e7445411fc4530e78452104044729664391542434296c4311d6042d219842721964262228424181a421103e41f028241d01984110baa4040000c00,
  0x28d702d4440040a43b000383a0000c00, 0x78d702d6440040c43b000883a0000c00,
  0x28d702d4440046a43b000383a0000c00, 0x78d702d6440046c43b000883a0000c00,
  0x28d702d4440049e43b000383a0000c00, 0x78d702d644004a043b000883a0000c00,
  0x28d702d444004d043b000383a0000c00, 0x78d702d644004d243b000883a0000c00,
  0x28d702d4440044a43b000383a0000c00, 0x28d702d4440050243b000383a0000c00,
  0x78d702d6440050443b000883a0000c00, 0x28d702d4440053243b000383a0000c00,
  0x78d702d6440053443b000883a0000c00, 0x28d702d444003d843b000383a0000c00,
  0x78d702d644003da43b000883a0000c00, 0x78d7006285c044e43b000883a0000c00,
  0x78f4029046d029046c000786c044e43b000883a0000c00, 0x28d702d4440043e43b000383a0000c00,
  0x78d702d6440044043b000883a0000c00, 0x78f204b443b000883a0000c00, 0x78e404e643b000883a0000c00,
  0x78d702d6440044e43b000883a0000c00, 0x78f3051643b000883a0000c00, 0x78d7035643b000883a0000c00,
  0x78d7039243b000883a0000c00, 0x78d7040c43b000883a0000c00, 0x78d7046c43b000883a0000c00,
  0x78d704a043b000883a0000c00, 0x78d704d243b000883a0000c00, 0x78d7050443b000883a0000c00,
  0x78d7053443b000883a0000c00, 0x78d703da43b000883a0000c00, 0x78d7044043b000883a0000c00,
  0x18204d417204a912184550e7445411fc4530e78452104044729664391542434296c4311d6042d219842721964262228424181a421103e41f028241d01984110baa4040000c00,
  0x1540533182053216ce4a912184550e7445411f84530d2a4520d2844f0e724472966439153e43414e64310d2c42f206e42d21984272196426103041f028241d0b7c4120000c00,
  0x1540533182053216ce4a912184550e7445411f84530d2a4520d3044f0e724472966439153e43414e64310d2c42f206e42d21984272196426103041f028241d0b7e4120000c00,
  0x154153300ee933182153200ee93216cf4a900ee8a9121945500ee8550e7545400ee85411f945300ee8530d2b45200ee85200ee84f0e7344700ee847296743900ee839153f43400ee83414e743100ee8310d2d42f00ee82f206f42d00ee82d219942700ee827219742600ee826103141f00ee81f028341d00ee81d0b7f41200ee8120000c00,
  0x1593401744a62b344a30e0244f001584f0bb844e001584e036643b26944342aae4332aac4322b2e4311cea43014f842f1d6042d28ec4202b7e41f2ab041e1a5a40d1c0e40c1c0c40b2b7c40918164071ce840626964050000c00,
  0x1593401744a62b344a30e6c44f001584f0bb844e001584e036643b26944342aae4332aac4322b2e4311cea43014f842f1d6042d28ec4202b7e41f2ab041e1a5a40d1c0e40c1c0c40b2b7c40918164071ce840626964050000c00,
  0x1540533182053216ce4a912184550e7445411f84530d2a4520cb444f0e724472966439153e43414e64310d2c42f206e42d21984272196426103041f028241d0b864120000c00,
  0x1540533182053216ce4a912184550e7445411f84530d2a4520cd444f0e724472966439153e43414e64310d2c42f206e42d21984272196426103041f028241d0b7e4120000c00]

/-- The rows of actions 896 to 959. -/
def rows14 : Array Nat := #[
  0x1593401744a62b344a30d0a44f001584f0bb844e001584e036643b26944342aae4332aac4322b2e4311cea43014f842f1d6042d28ec4202b7e41f2ab041e1a5a40d1c0e40c1c0c40b2b7c40918164071ce840626964050000c00,
  0x1540533182053216ce4a912184550e7445411f84530d2a45201d444f0e724472966439153e43414e64310d2c42f206e42d21984272196426103041f028241d0b8c4120000c00,
  0x1540533182053216ce4a912184550e7445411f84530d2a45201d844f0e724472966439153e43414e64310d2c42f206e42d21984272196426103041f028241d0b7e4120000c00,
  0x1593401744a62b344a30d3844f001584f0bb844e001584e036643b26944342aae4332aac4322b2e4311cea43014f842f1d6042d28ec4202b7e41f2ab041e1a5a40d1c0e40c1c0c40b2b7c40918164071ce840626964050000c00,
  0x1540533182053216ce4a912184550e7445411f84530d2a45205e044f0e724472966439153e43414e64310d2c42f206e42d21984272196426103041f028241d0b924120000c00,
  0x1540533182053216ce4a912184550e7445411f84530d2a45205e244f0e724472966439153e43414e64310d2c42f206e42d21984272196426103041f028241d0b7e4120000c00,
  0x1593401744a62b344a3126044f001584f0bb844e001584e036643b26944342aae4332aac4322b2e4311cea43014f842f1d6042d28ec4202b7e41f2ab041e1a5a40d1c0e40c1c0c40b2b7c40918164071ce840626964050000c00,
  0x1540533182053216ce4a912184550e7445411f84530d2a452073644f0e724472966439153e43414e64310d2c42f206e42d21984272196426103041f028241d0b984120000c00,
  0x1540533182053216ce4a912184550e7445411f84530d2a452073844f0e724472966439153e43414e64310d2c42f206e42d21984272196426103041f028241d0b7e4120000c00,
  0x18f45351a6e4a913e445513e245411f24530e704520e6e44f0bb844e10244470320441153a43421b842721b6426102241f01f041d0fbc4070000c00,
  0x369361bda4e7280845b1ce6428089e42402b041d020a4110000c00,
  0x197a5351a6e4a9140e455140c454121a4530ecc4520d3e44f0bb844e11064470320441153a43421b842721b6426110441f01f041d0fbc4070000c00,
  0x19825351a6e4a914124551410454123a4530f904520d0c44f0bb844e112c4470320441153a43421b842721b6426112a41f01f041d0fbc4070000c00,
  0x19865351a6e4a91416455141445412424530f944520e0444f0bb844e114c4470320441153a43421b842721b6426114a41f01f041d0fbc4070000c00,
  0x19965351a6e4a9141a455141845412504530fa4452124e44f0bb844e11584470320441153a43421b842721b6426115641f01f041d0fbc4070000c00,
  0x19f65351a6e4a91420455141e45412584530fae452137a44f0bb844e11604470320441153a43421b842721b6426115e41f01f041d0fbc4070000c00,
  0x409370000c00,
  0x1593801744a62b344a3036043b26944342aae4332aac4322b2e4311cea43014f842f1d6042d28ec4202b7e41f2ab041e1a5a40d1c0e40c1c0c40b2b7c40918164071ce840626964050000c00,
  0xa59370000c00,
  0x1593401744a62b344a3005d871005c8710015871036643b26944342aae4332aac4322b2e4311cea43014f842f1d6042d28ec4202b7e41f2ab041e1a5a40d1c0e40c1c0c40b2b7c40918164071ce840626964050000c00,
  0x9193928a245b089e424020a4110000c00, 0x9193928a445b089e424020a4110000c00,
  0x9193928a645b089e424020a4110000c00, 0x8a053b003b93a2a6645b089e4240000c00,
  0x1a845351a6e4a9001787100168711474455147245413e045311ec45213384470320441153a43421b842721b6426133641f01f041d0fbc4070000c00,
  0xd93c1bda4e7280845b1ce642802b041d0000c00, 0xb193d0000c00, 0x12593d0000c00, 0x16293d0000c00,
  0x188e90d1a494001a83b0000c00, 0x3993e0000c00, 0x3893f089e4240000c00,
  0x3e940289e45b020a4110000c00, 0x4093d0000c00, 0x3b93a2a6645b089e4240000c00, 0xa093e0000c00,
  0xa593d0000c00, 0x3d94108a053b0000c00, 0x3894108a253b0000c00, 0x12894108a053b0000c00,
  0xa194300499420000c00, 0x10494300499420000c00, 0xd9441ce64280000c00, 0x4c945020a4110000c00,
  0x8c945020a4110000c00, 0xb58e900388df0000c00, 0xb594608de4df084e438084c4370000c00,
  0xb794608de4df084e438084c4370000c00, 0x139472a2845b002c4070000c00, 0x139472a2a45b002c4070000c00,
  0x13948002c4070000c00, 0xa39410000c00, 0x19949008e8f000198f0008e8df001a83b0000c00,
  0x794a22a04e7009189e275445b0000c00, 0x3294900938f000328f000938df003383b0000c00,
  0x794b009789e0000c00, 0x1159410000c00, 0x1589410000c00, 0x1394c2a5e45b00304070000c00,
  0x1394c2a6045b00304070000c00, 0x1394d00304070000c00, 0x379410000c00, 0x3a9410000c00,
  0x3d9410000c00]

/-- The rows of actions 960 to 1023. -/
def rows15 : Array Nat := #[
  0x3e94e28a045b0000c00, 0x3e9410000c00, 0x3e94f07a641d0000c00, 0x389410000c00,
  0x188e90d1a4940000c00, 0x8e9410000c00, 0x9194e28a245b0000c00, 0x9194e28a845b0000c00,
  0x919410000c00, 0x939410000c00, 0x959410000c00, 0x96950084c4370000c00, 0x979410000c00,
  0x999410000c00, 0x9a9410000c00, 0x9c94608de4df084e438084c4370000c00,
  0x9d952003e95107a641d0000c00, 0x9e8e908524df0000c00, 0x9f94f07a641d0000c00, 0xa19410000c00,
  0xa29410000c00, 0x1039410000c00, 0x1049410000c00, 0x1059410000c00, 0x1079410000c00,
  0x10b9410000c00, 0x10c9410000c00, 0x11094e011085b00c285b0000c00, 0x1129410000c00,
  0x1139410000c00, 0x11094e011085b00c385b0000c00, 0x1149410000c00,
  0x11494608de4df084e438084c4370000c00, 0x1179410000c00, 0x118950084c4370000c00, 0x1199410000c00,
  0x14b9410000c00, 0x14f9410000c00, 0x1509410000c00, 0x1539410000c00, 0x1559410000c00,
  0x15794608de4df084e438084c4370000c00, 0x1599410000c00, 0x15a9410000c00,
  0x15a94608de4df084e438084c4370000c00, 0x1829410000c00, 0x1869410000c00, 0x1879410000c00,
  0x19e9410000c00, 0x1a29410000c00, 0x1b294608de4df084e438084c4370000c00, 0x1289410000c00,
  0x16594608de4df084e438084c4370000c00, 0x16694608de4df084e438084c4370000c00,
  0x608e90d204940000c00, 0x78e9044e43b0000c00,
  0x369531a824e726dc45b1c3a4280880424027e41d02064110000c00,
  0x1593418204ad17324a91218455126c4530e0244f001584f0bb844e001584e10c6447035c43b159e4342198427219642611d041f03d641d0000c00,
  0x78e90000c00, 0xd8e90000c00, 0x348e90000c00, 0x448e90000c00, 0x498e90000c00, 0x3f8e90000c00]

/-- The rows of actions 1024 to 1087. -/
def rows16 : Array Nat := #[
  0x588e90000c00, 0x658e90000c00, 0x688e90000c00, 0x7f8e90000c00, 0x818e90000c00, 0x898e90000c00,
  0x8b8e90000c00, 0x8c8e90000c00, 0xa88e90000c00, 0xab8e90000c00, 0xb48e90000c00,
  0x7949003d8f000078f0003d8df0000c00, 0xc58e90000c00, 0xca8e90000c00, 0x848e90000c00,
  0xe98e90000c00, 0xf08e90000c00, 0xf68e90000c00, 0xf78e90000c00, 0xf88e90000c00, 0xf98e90000c00,
  0xfa8e90000c00, 0xfd8e90000c00, 0x1008e90000c00,
  0x1593418204ad17324a91218455126c4530e6c44f001584f0bb844e001584e10c6447035c43b159e4342198427219642611d041f03d641d0000c00,
  0x1278e90000c00, 0xf18e90000c00, 0x1298e90000c00, 0x1468e90000c00, 0x1698e90000c00,
  0x1448e90000c00, 0x1488e90000c00, 0x1678e90000c00, 0x17f8e90000c00, 0x18e8e90000c00,
  0x32954003383b0000c00, 0x5a954005b83b0000c00, 0x19954001a83b0000c00,
  0x7949003a8f000078f0003a8df0000c00, 0xc29550000c00, 0xc39550000c00,
  0x4494900998f000448f000998df0000c00, 0x148e90000c00, 0x598e90000c00, 0x608e90000c00,
  0xc28e90000c00, 0xc38e90000c00, 0xce8e90000c00,
  0x1593418204ad17324a91218455126c4530d0a44f001584f0bb844e001584e10c6447035c43b159e4342198427219642611d041f03d641d0000c00,
  0x1593418204ad17324a91218455126c4530d3844f001584f0bb844e001584e10c6447035c43b159e4342198427219642611d041f03d641d0000c00,
  0x1593418204ad17324a91218455126c453126044f001584f0bb844e001584e10c6447035c43b159e4342198427219642611d041f03d641d0000c00,
  0x819480000c00,
  0x1595618204ad16d64a9121845512224531074447154643421984272196426107241f03d641d00344070000c00,
  0x18205570015956154853319104a912184550e7445413424521344447154a4312198427219642603d641d0000c00,
  0x18205570015956156253319164a912184550e744541356452135844715604312198427219642603d641d0000c00,
  0xf09480000c00,
  0x1c5055800159341cf44a914cc4530e0244f001584f0bb844e001584e035c43b159e43421b842721b6426034841d0000c00,
  0x1593418204ae17324a9126c4530e0244f001584f0bb844e001584e035c43b159e4342198427219642611d041f029241d0000c00,
  0x3395a0033959003295900328f30000c00, 0x5b95a005b959005a959005a8f30000c00, 0x609480000c00,
  0x6095b0d464940000c00, 0x1a95a001a959001995900198f30000c00, 0x9195c283c45b088042402064110000c00]

/-- The rows of actions 1088 to 1151. -/
def rows17 : Array Nat := #[
  0x9195c283e45b088042402064110000c00, 0x9195c284045b088042402064110000c00, 0xce9480000c00,
  0x1c5055800159341cf44a914cc4530e6c44f001584f0bb844e001584e035c43b159e43421b842721b6426034841d0000c00,
  0x1593418204ae17324a9126c4530e6c44f001584f0bb844e001584e035c43b159e4342198427219642611d041f029241d0000c00,
  0x149480000c00, 0x599480000c00, 0x1895b0d3a4940000c00, 0x3b95d083653b2a0645b08804240000c00,
  0x1c5055800159341cf44a914cc4530d0a44f001584f0bb844e001584e035c43b159e43421b842721b6426034841d0000c00,
  0x1593418204ae17324a9126c4530d0a44f001584f0bb844e001584e035c43b159e4342198427219642611d041f029241d0000c00,
  0x4f8b80138424020a4110000c00,
  0x424569088456804045670402566040056503fa56403f656303f456203f256103ec560005895f03ee55e22344e708824a3280845b03fe43903fc43803f843709464360ca8425013842402b041d020a4110000c00,
  0x424569088456804045670402566040056503fa56403f656303f456203f256103ec560005395f03ee55e22344e708824a3280845b03fe43903fc43803f843709464360ca8425013842402b041d020a4110000c00,
  0x424569088456804045670402566040056503fa56403f656303f456203f256103ec560007c95f03ee55e22344e708824a3280845b03fe43903fc43803f843709464360ca8425013842402b041d020a4110000c00,
  0x424569088456804045670402566040056503fa56403f656303f456203f256103ec56000aa95f03ee55e22344e708824a3280845b03fe43903fc43803f843709464360ca8425013842402b041d020a4110000c00,
  0x424569088456804045670402566040056503fa56403f656303f456203f256103ec56000ab95f03ee55e22344e708824a3280845b03fe43903fc43803f843709464360ca8425013842402b041d020a4110000c00,
  0xac96a040056503f656303ee55e22344e7280845b03fe4390ca8425013842402b041d020a4110000c00,
  0xac96b040056522344e7280845b0ca8425013842400ac82402b041d020a4110000c00,
  0xac96c0402566040056503fa56403f656303ec56003ee55e22344e7280845b03fe43903fc43803f84370ca8425013842402b041d020a4110000c00,
  0xac96d0402566040056503fa56403f656303f256103ec56003ee55e22344e7280845b03fe43903fc43803f84370ca8425013842402b041d020a4110000c00,
  0xac96e040056503ee55e22344e7280845b03fe4390ca8425013842400ac82402b041d020a4110000c00,
  0xac96f0402566040056503f656303ec56003ee55e22344e7280845b03fe4390ca8425013842402b041d020a4110000c00,
  0xac9700402566040056503f656303ec56003ee55e22344e7280845b03fe43903f84370ca8425013842402b041d020a4110000c00,
  0xac9710402566040056503fa56403f656303ec56003ee55e22344e7280845b03fe43903f84370ca8425013842402b041d020a4110000c00,
  0xac972040056503ee55e22344e7280845b0ca8425013842400ac82402b041d020a4110000c00,
  0xac9730884568040056522344e708824a3280845b09464360ca8425013842400ac82402b041d020a4110000c00,
  0xac974040056503f656303ec56003ee55e22344e7280845b03fe4390ca8425013842402b041d020a4110000c00,
  0xac9750402566040056503fa56403f656303f456203f256103ec56003ee55e22344e7280845b03fe43903fc43803f84370ca8425013842402b041d020a4110000c00,
  0x424569088456804045670402566040056503fa56403f656303f456203f256103ec56000b895f03ee55e22344e708824a3280845b03fe43903fc43803f843709464360ca8425013842402b041d020a4110000c00,
  0x424569088456804045670402566040056503fa56403f656303f456203f256103ec56000f795f03ee55e22344e708824a3280845b03fe43903fc43803f843709464360ca8425013842402b041d020a4110000c00,
  0x424569088456804045670402566040056503fa56403f656303f456203f256103ec56000f995f03ee55e22344e708824a3280845b03fe43903fc43803f843709464360ca8425013842402b041d020a4110000c00,
  0x424569088456804045670402566040056503fa56403f656303f456203f256103ec56000fe95f03ee55e22344e708824a3280845b03fe43903fc43803f843709464360ca8425013842402b041d020a4110000c00,
  0x424569088456804045670402566040056503fa56403f656303f456203f256103ec56000ff95f03ee55e22344e708824a3280845b03fe43903fc43803f843709464360ca8425013842402b041d020a4110000c00,
  0x424569088456804045670402566040056503fa56403f656303f456203f256103ec560016395f03ee55e22344e708824a3280845b03fe43903fc43803f843709464360ca8425013842402b041d020a4110000c00,
  0x1c5055800159341cf44a914cc4530d3844f001584f0bb844e001584e035c43b159e43421b842721b6426034841d0000c00,
  0x1593418204ae17324a9126c4530d3844f001584f0bb844e001584e035c43b159e4342198427219642611d041f029241d0000c00,
  0x1c5055800159341cf44a914cc453126044f001584f0bb844e001584e035c43b159e43421b842721b6426034841d0000c00,
  0x1593418204ae17324a9126c453126044f001584f0bb844e001584e035c43b159e4342198427219642611d041f029241d0000c00,
  0x1e97622344e7280845b0ca84250138424001e82402b041d020a4110000c00,
  0x29977088456822344e708824a3280845b09464360ca84250138424002982402b041d020a4110000c00,
  0x424569088456804045670402566040056503fa56403f656303f456203f256103ec560002f95f03ee55e22344e708824a3280845b03fe43903fc43803f843709464360ca8425013842402b041d020a4110000c00,
  0x3f97822344e7280845b0138424003f82402b041d020a4110000c00,
  0xd9791a824e726dc45b1c3a428027e41d0000c00,
  0x1e97a22344e726dc45b1012425012e424001e824027e41d02064110000c00,
  0x3bc5690884568038a567038856603865650380564037c563037a56203785610372560037455e22344e708824a30a30464080e45c280845b037644e03844390382438037e43709464360ca8425013442402b041d020a4110000c00,
  0x2997b07c456822344e707c24a326dc45b0a2c4361012425012e4240029824027e41d02064110000c00,
  0x2f97c032a56907c456803425670340566033e56503385640334563033256203305610328560032c55e22344e707c24a326dc45b033c439033a43803364370a2c4361012425012e424027e41d02064110000c00,
  0x3f97d22344e726dc45b012e424003f824027e41d02064110000c00, 0x4f8b9012e42402064110000c00,
  0x5897c032a56907c456803425670340566033e56503385640334563033256203305610328560032c55e22344e707c24a326dc45b033c439033a43803364370a2c4361012425012e424027e41d02064110000c00,
  0x5397c032a56907c456803425670340566033e56503385640334563033256203305610328560032c55e22344e707c24a326dc45b033c439033a43803364370a2c4361012425012e424027e41d02064110000c00,
  0x7c97c032a56907c456803425670340566033e56503385640334563033256203305610328560032c55e22344e707c24a326dc45b033c439033a43803364370a2c4361012425012e424027e41d02064110000c00,
  0xaa97c032a56907c456803425670340566033e56503385640334563033256203305610328560032c55e22344e707c24a326dc45b033c439033a43803364370a2c4361012425012e424027e41d02064110000c00,
  0xab97c032a56907c456803425670340566033e56503385640334563033256203305610328560032c55e22344e707c24a326dc45b033c439033a43803364370a2c4361012425012e424027e41d02064110000c00,
  0xac97e033e5650334563032c55e22344e726dc45b033c4391012425012e424027e41d02064110000c00,
  0xb197f0000c00, 0xac980033e56522344e726dc45b1012425012e42400ac824027e41d02064110000c00,
  0xac9810340566033e565033856403345630328560032c55e22344e726dc45b033c439033a43803364371012425012e424027e41d02064110000c00,
  0xac9820340566033e5650338564033456303305610328560032c55e22344e726dc45b033c439033a43803364371012425012e424027e41d02064110000c00,
  0xac983033e565032c55e22344e726dc45b033c4391012425012e42400ac824027e41d02064110000c00,
  0xac9840340566033e56503345630328560032c55e22344e726dc45b033c4391012425012e424027e41d02064110000c00,
  0xac9850340566033e56503345630328560032c55e22344e726dc45b033c43903364371012425012e424027e41d02064110000c00,
  0xac9860340566033e565033856403345630328560032c55e22344e726dc45b033c43903364371012425012e424027e41d02064110000c00]

/-- The rows of actions 1152 to 1215. -/
def rows18 : Array Nat := #[
  0xac987033e565032c55e22344e726dc45b1012425012e42400ac824027e41d02064110000c00,
  0xac98807c4568033e56522344e707c24a326dc45b0a2c4361012425012e42400ac824027e41d02064110000c00,
  0xac989033e56503345630328560032c55e22344e726dc45b033c4391012425012e424027e41d02064110000c00,
  0xac98a0340566033e56503385640334563033256203305610328560032c55e22344e726dc45b033c439033a43803364371012425012e424027e41d02064110000c00,
  0xb897c032a56907c456803425670340566033e56503385640334563033256203305610328560032c55e22344e707c24a326dc45b033c439033a43803364370a2c4361012425012e424027e41d02064110000c00,
  0x182058b0015956155a53319144a912184551352452135444715584312198427219642603d641d0000c00,
  0xf797c032a56907c456803425670340566033e56503385640334563033256203305610328560032c55e22344e707c24a326dc45b033c439033a43803364370a2c4361012425012e424027e41d02064110000c00,
  0xf997c032a56907c456803425670340566033e56503385640334563033256203305610328560032c55e22344e707c24a326dc45b033c439033a43803364370a2c4361012425012e424027e41d02064110000c00,
  0xfe97c032a56907c456803425670340566033e56503385640334563033256203305610328560032c55e22344e707c24a326dc45b033c439033a43803364370a2c4361012425012e424027e41d02064110000c00,
  0xff97c032a56907c456803425670340566033e56503385640334563033256203305610328560032c55e22344e707c24a326dc45b033c439033a43803364370a2c4361012425012e424027e41d02064110000c00,
  0x159341c504b01cf44a90e0244f001584f0bb844e001584e035c43b21b842721b6426034841d0000c00,
  0x12597f0000c00,
  0x182058b0015956158453319304a912184551364452136644715824312198427219642603d641d0000c00,
  0x1593418204ad17324a9005d871005c87100158711218455126c45310c6447035c43b159e4342198427219642611d041f03d641d0000c00,
  0x16297f0000c00,
  0x16397c032a56907c456803425670340566033e56503385640334563033256203305610328560032c55e22344e707c24a326dc45b033c439033a43803364370a2c4361012425012e424027e41d02064110000c00,
  0x78d70025866044e43b002583b0000c00, 0x3998c0000c00, 0x3898d08804240000c00,
  0x3e98e281e45b02064110000c00, 0x78d70062866044e43b0000c00, 0x3b95d2a0645b08804240000c00,
  0xce4590008d98f0000c00, 0xa098c0000c00, 0x19991008e8f000198f0008e8df001a83b0000c00,
  0x159341c504b01cf44a90e6c44f001584f0bb844e001584e035c43b21b842721b6426034841d0000c00,
  0x3299100938f000328f000938df003383b0000c00, 0x3399200328d70000c00, 0x5b992005a8d70000c00,
  0x1a99200198d70000c00, 0x3a8fd00078fc003a8ec00078ec03ea43b002583b0000c00, 0x3d993083653b0000c00,
  0x38993083853b0000c00, 0x128993083653b0000c00,
  0x198fc008e8ee008e8ec00198ec008e871001a8710019871001a83b0000c00,
  0x328fc00938ee00938ec00328ec009387100338710032871003383b0000c00,
  0x3bc5690884568038a567038856603865650380564037c563037a56203785610372560037455e22344e708824a3076c464080e45c280845b037644e03844390382438037e43709464360ca8425013442402b041d020a4110000c00,
  0x159341c504b01cf44a90d0a44f001584f0bb844e001584e035c43b21b842721b6426034841d0000c00,
  0xb69940424569088456804045670402566040056503fa56403f656303f456203f256103ec56003ee55e22344e708824a3280845b03fe43903fc43803f843709464360ca8425013842402b041d020a4110000c00,
  0x3bc5690884568038a567038856603865650380564037c563037a56203785610372560037455e22344e708824a30972464080e45c280845b037644e03844390382438037e43709464360ca8425013442402b041d020a4110000c00,
  0x159341c504b01cf44a90d3844f001584f0bb844e001584e035c43b21b842721b6426034841d0000c00,
  0x3bc5690884568038a567038856603865650380564037c563037a56203785610372560037455e22344e708824a30642464080e45c280845b037644e03844390382438037e43709464360ca8425013442402b041d020a4110000c00,
  0x159341c504b01cf44a9126044f001584f0bb844e001584e035c43b21b842721b6426034841d0000c00,
  0x4f8ba014042402064110000c00,
  0x58995055a56907c4568043a567043856604365650430564042c563042a56204285610422560042655e22344e707c24a326dc45b04344390432438042e4370a2c43610124250140424027e41d02064110000c00,
  0x53995055a56907c4568043a567043856604365650430564042c563042a56204285610422560042655e22344e707c24a326dc45b04344390432438042e4370a2c43610124250140424027e41d02064110000c00,
  0x7c995055a56907c4568043a567043856604365650430564042c563042a56204285610422560042655e22344e707c24a326dc45b04344390432438042e4370a2c43610124250140424027e41d02064110000c00,
  0xaa995055a56907c4568043a567043856604365650430564042c563042a56204285610422560042655e22344e707c24a326dc45b04344390432438042e4370a2c43610124250140424027e41d02064110000c00,
  0xab995055a56907c4568043a567043856604365650430564042c563042a56204285610422560042655e22344e707c24a326dc45b04344390432438042e4370a2c43610124250140424027e41d02064110000c00,
  0xac9960436565042c563042655e22344e726dc45b043443910124250140424027e41d02064110000c00,
  0xac997043656522344e726dc45b1012425014042400ac824027e41d02064110000c00,
  0xac998043856604365650430564042c5630422560042655e22344e726dc45b04344390432438042e43710124250140424027e41d02064110000c00,
  0xac999043856604365650430564042c56304285610422560042655e22344e726dc45b04344390432438042e43710124250140424027e41d02064110000c00,
  0xac99a0436565042655e22344e726dc45b04344391012425014042400ac824027e41d02064110000c00,
  0xac99b04385660436565042c5630422560042655e22344e726dc45b043443910124250140424027e41d02064110000c00,
  0xac99c04385660436565042c5630422560042655e22344e726dc45b0434439042e43710124250140424027e41d02064110000c00,
  0xac99d043856604365650430564042c5630422560042655e22344e726dc45b0434439042e43710124250140424027e41d02064110000c00,
  0xac99e0436565042655e22344e726dc45b1012425014042400ac824027e41d02064110000c00,
  0xac99f07c4568043656522344e707c24a326dc45b0a2c4361012425014042400ac824027e41d02064110000c00,
  0xac9a00436565042c5630422560042655e22344e726dc45b043443910124250140424027e41d02064110000c00,
  0xac9a1043856604365650430564042c563042a56204285610422560042655e22344e726dc45b04344390432438042e43710124250140424027e41d02064110000c00,
  0xb8995055a56907c4568043a567043856604365650430564042c563042a56204285610422560042655e22344e707c24a326dc45b04344390432438042e4370a2c43610124250140424027e41d02064110000c00,
  0xf7995055a56907c4568043a567043856604365650430564042c563042a56204285610422560042655e22344e707c24a326dc45b04344390432438042e4370a2c43610124250140424027e41d02064110000c00,
  0xf9995055a56907c4568043a567043856604365650430564042c563042a56204285610422560042655e22344e707c24a326dc45b04344390432438042e4370a2c43610124250140424027e41d02064110000c00]

/-- The rows of actions 1216 to 1279. -/
def rows19 : Array Nat := #[
  0xfe995055a56907c4568043a567043856604365650430564042c563042a56204285610422560042655e22344e707c24a326dc45b04344390432438042e4370a2c43610124250140424027e41d02064110000c00,
  0xff995055a56907c4568043a567043856604365650430564042c563042a56204285610422560042655e22344e707c24a326dc45b04344390432438042e4370a2c43610124250140424027e41d02064110000c00,
  0x163995055a56907c4568043a567043856604365650430564042c563042a56204285610422560042655e22344e707c24a326dc45b04344390432438042e4370a2c43610124250140424027e41d02064110000c00,
  0x7900003a8f000078f0003a8df03ea43b0000c00,
  0x1e9a222344e726dc45b10124250140424001e824027e41d02064110000c00,
  0x299a307c456822344e707c24a326dc45b0a2c436101242501404240029824027e41d02064110000c00,
  0x2f995055a56907c4568043a567043856604365650430564042c563042a56204285610422560042655e22344e707c24a326dc45b04344390432438042e4370a2c43610124250140424027e41d02064110000c00,
  0x3f9a422344e726dc45b0140424003f824027e41d02064110000c00,
  0x32a56907c456803425670340566033e56503385640334563033256203305610328560032c55e22344e707c24a3065c4a126dc45b032e44e033c439033a43803364370a2c4361012425012e424027e41d02064110000c00,
  0xd9a51c3a4280000c00, 0x1d7a4b029604a91a8844f101e44e032244121b842721b642601f041d0fbc4070000c00,
  0x32a56907c456803425670340566033e56503385640334563033256203305610328560032c55e22344e707c24a3067a4a126dc45b032e44e033c439033a43803364370a2c4361012425012e424027e41d02064110000c00,
  0x32a56907c456803425670340566033e56503385640334563033256203305610328560032c55e22344e707c24a3067c4a126dc45b032e44e033c439033a43803364370a2c4361012425012e424027e41d02064110000c00,
  0x3291f003383b0000c00, 0x4c9a602064110000c00, 0x5a91f005b83b0000c00, 0x1991f001a83b0000c00,
  0x159a71c504ad1c524a9150a45514a44530e6c44f0bb844e148e447035c43b153c43421b842721b6426148c41f034841d0000c00,
  0x1595618204ae16d64a912224531546434154843121984272196426107241f029241d0000c00,
  0x1c9a900159a80000c00, 0x8c9a602064110000c00,
  0x1593818204ad17284a912184551224453108a447155243421984272196426108841f03d641d0000c00,
  0x269aa00078fc003d8ec00078ec003d8df003d86400268640000c00,
  0x3a90600078fc00258f6003a8ec00078ec044e43b002583b0000c00, 0xb591f00388df0000c00,
  0xb59ab08d84df081243808104370000c00, 0x7991003d8f000078f0003d8df0000c00,
  0x7908003a8f000078f0003a8df032643b0000c00, 0xb79ab08d84df081243808104370000c00,
  0x32a56907c456803425670340566033e56503385640334563033256203305610328560032c55e22344e707c24a3068c4a126dc45b00c484f005384e00c484e033c439033a43803364370a2c4361012425012e424027e41d02064110000c00,
  0x32a56907c456803425670340566033e56503385640334563033256203305610328560032c55e22344e707c24a300538a126dc45b00c484f005384e00c484e033c439033a43803364370a2c4361012425012e424027e41d02064110000c00,
  0x32a56907c456803425670340566033e56503385640334563033256203305610328560032c55e22344e707c24a300aa8a126dc45b00c484f00aa84e00c484e033c439033a43803364370a2c4361012425012e424027e41d02064110000c00,
  0x32a56907c456803425670340566033e56503385640334563033256203305610328560032c55e22344e707c24a300aa8a126dc45b00c984f00aa84e00c984e033c439033a43803364370a2c4361012425012e424027e41d02064110000c00,
  0x1595618204ad16e04a91218455122845310b844715564342198427219642610b641f03d641d0000c00,
  0x1595618204ae16e04a912284531556434155a4312198427219642610b641f03d641d0000c00,
  0x1595618204ad16e44a91218455121645310ba44715aa43421984272196426110241f03d641d0000c00,
  0x1595618204ae16e64a9121645315aa434155e43121984272196426110241f03d641d0000c00,
  0x1593818204ad17304a91218455122c45310c2447156a4342198427219642610c041f03d641d0000c00,
  0x1a9aa00198fc008e8ec00198ec008e8df008e864001a8640000c00,
  0x339aa00328fc00938ec00328ec00938df009386400338640000c00,
  0x719aa00078fc003d8ec00078ec003d8df0071864003d8640000c00,
  0x1595618204ad16f24a91218455121e45310e244715ac43421984272196426110c41f03d641d0000c00,
  0x1595618204ae16f44a9121e45315ac434158043121984272196426110c41f03d641d0000c00,
  0x1c5055800159341cf44a9005d871005c871001587114cc453035c43b159e43421b842721b6426034841d0000c00,
  0x1593418204ae17324a9005d871005c8710015871126c453035c43b159e4342198427219642611d041f029241d0000c00,
  0x1593818204ad173e4a91218455126e45310ea44715a04342198427219642611d441f03d641d0000c00,
  0x32a56907c456803425670340566033e56503385640334563033256203305610328560032c55e22344e707c24a31ffc4a100c487126dc45b033c439033a43803364370a2c4361012425012e424027e41d02064110000c00,
  0x199ad00189ac05dc494001a83b0000c00,
  0x1e9ae22344e7280845b0ca84250134424001e82402b041d020a4110000c00,
  0x299af088456822344e708824a3280845b09464360ca84250134424002982402b041d020a4110000c00,
  0x2f9b003bc5690884568038a567038856603865650380564037c563037a56203785610372560037455e22344e708824a3280845b03844390382438037e43709464360ca8425013442402b041d020a4110000c00,
  0x379930000c00, 0x3a9930000c00, 0x3d9930000c00, 0x3e9b1282045b0000c00, 0x3e9930000c00,
  0x3e9b2079a41d0000c00, 0x389930000c00, 0x3f9b322344e7280845b0134424003f82402b041d020a4110000c00,
  0x4f8bc0134424020a4110000c00,
  0x589b003bc5690884568038a567038856603865650380564037c563037a56203785610372560037455e22344e708824a3280845b03844390382438037e43709464360ca8425013442402b041d020a4110000c00,
  0x539b003bc5690884568038a567038856603865650380564037c563037a56203785610372560037455e22344e708824a3280845b03844390382438037e43709464360ca8425013442402b041d020a4110000c00,
  0x159a71c504ad1c524a9150a45514a44530d3844f0bb844e148e447035c43b153c43421b842721b6426148c41f034841d0000c00,
  0x7c9b003bc5690884568038a567038856603865650380564037c563037a56203785610372560037455e22344e708824a3280845b03844390382438037e43709464360ca8425013442402b041d020a4110000c00]

/-- The rows of actions 1280 to 1343. -/
def rows20 : Array Nat := #[
  0x8e9930000c00, 0x919b1283c45b0000c00, 0x919b1284245b0000c00, 0x919930000c00,
  0x7991003a8f000078f0003a8df0000c00,
  0x2695a00078fc00268fa00078fa003d8ec00078ec003d8df003d864002686400078640000c00,
  0x3a90600078fc00258fa00078fa003a8ec00078ec002583d037043b002583b0000c00, 0x939930000c00,
  0x959930000c00, 0x969b408104370000c00, 0x979930000c00, 0x999930000c00, 0x9a9930000c00,
  0x9c9ab08d84df081243808104370000c00, 0x9d9b5003e951079a41d0000c00, 0x9e91f08164df0000c00,
  0x9f9b2079a41d0000c00, 0xa19930000c00, 0xa29930000c00, 0xa39930000c00,
  0xaa9b003bc5690884568038a567038856603865650380564037c563037a56203785610372560037455e22344e708824a3280845b03844390382438037e43709464360ca8425013442402b041d020a4110000c00,
  0xab9b003bc5690884568038a567038856603865650380564037c563037a56203785610372560037455e22344e708824a3280845b03844390382438037e43709464360ca8425013442402b041d020a4110000c00,
  0xac9b60386565037c563037455e22344e7280845b03844390ca8425013442402b041d020a4110000c00,
  0xac9b7038656522344e7280845b0ca8425013442400ac82402b041d020a4110000c00,
  0xac9b8038856603865650380564037c5630372560037455e22344e7280845b03844390382438037e4370ca8425013442402b041d020a4110000c00,
  0xac9b9038856603865650380564037c56303785610372560037455e22344e7280845b03844390382438037e4370ca8425013442402b041d020a4110000c00,
  0xac9ba0386565037455e22344e7280845b03844390ca8425013442400ac82402b041d020a4110000c00,
  0xac9bb03885660386565037c5630372560037455e22344e7280845b03844390ca8425013442402b041d020a4110000c00,
  0xac9bc03885660386565037c5630372560037455e22344e7280845b0384439037e4370ca8425013442402b041d020a4110000c00,
  0xac9bd038856603865650380564037c5630372560037455e22344e7280845b0384439037e4370ca8425013442402b041d020a4110000c00,
  0xac9be0386565037455e22344e7280845b0ca8425013442400ac82402b041d020a4110000c00,
  0xac9bf0884568038656522344e708824a3280845b09464360ca8425013442400ac82402b041d020a4110000c00,
  0xac9c00386565037c5630372560037455e22344e7280845b03844390ca8425013442402b041d020a4110000c00,
  0xac9c1038856603865650380564037c563037a56203785610372560037455e22344e7280845b03844390382438037e4370ca8425013442402b041d020a4110000c00,
  0xb89b003bc5690884568038a567038856603865650380564037c563037a56203785610372560037455e22344e708824a3280845b03844390382438037e43709464360ca8425013442402b041d020a4110000c00,
  0xf79b003bc5690884568038a567038856603865650380564037c563037a56203785610372560037455e22344e708824a3280845b03844390382438037e43709464360ca8425013442402b041d020a4110000c00,
  0xf99b003bc5690884568038a567038856603865650380564037c563037a56203785610372560037455e22344e708824a3280845b03844390382438037e43709464360ca8425013442402b041d020a4110000c00,
  0xfe9b003bc5690884568038a567038856603865650380564037c563037a56203785610372560037455e22344e708824a3280845b03844390382438037e43709464360ca8425013442402b041d020a4110000c00,
  0xff9b003bc5690884568038a567038856603865650380564037c563037a56203785610372560037455e22344e708824a3280845b03844390382438037e43709464360ca8425013442402b041d020a4110000c00,
  0x1039930000c00, 0x1049930000c00, 0x1059930000c00, 0x79c222a04e7009189e275445b0000c00,
  0x7991009789e0000c00, 0x4499100998f000448f000998df0000c00, 0x4991f00a18df0000c00,
  0x1079930000c00, 0x10b9930000c00, 0x10c9930000c00, 0x1109b1011085b00c285b0000c00,
  0x1129930000c00, 0x1139930000c00, 0x1109b1011085b00c385b0000c00, 0x1149930000c00,
  0x1149ab08d84df081243808104370000c00, 0x1159930000c00, 0x1179930000c00, 0x1189b408104370000c00,
  0x1199930000c00, 0x14b9930000c00, 0x14f9930000c00, 0x1509930000c00, 0x4991f01048df0000c00,
  0x1539930000c00]

/-- The rows of actions 1344 to 1407. -/
def rows21 : Array Nat := #[
  0x1559930000c00, 0x1579ab08d84df081243808104370000c00, 0x1589930000c00, 0x1599930000c00,
  0x15a9930000c00, 0x15a9ab08d84df081243808104370000c00,
  0x1639b003bc5690884568038a567038856603865650380564037c563037a56203785610372560037455e22344e708824a3280845b03844390382438037e43709464360ca8425013442402b041d020a4110000c00,
  0x1829930000c00, 0x1869930000c00, 0x1879930000c00, 0x19e9930000c00, 0x1a29930000c00,
  0x1b29ab08d84df081243808104370000c00, 0x189c30d3a494001a83b0000c00,
  0x159a71c504ad1c524a9150a45514a44530d0a44f0bb844e148e447035c43b153c43421b842721b6426148c41f034841d0000c00,
  0x4225c500d59c4055a56907c4568043a567043856604365650430564042c563042a5620428561042655e22344e707c24a3042246c00d586c26dc45b04344390432438042e4370a2c43610124250140424027e41d02064110000c00,
  0x159a71c504ad1c524a9150a45514a44530e0244f0bb844e148e447035c43b153c43421b842721b6426148c41f034841d0000c00,
  0x199c6008e90e008e90d001990d001a83b0000c00, 0x79c726504e70091898288c45b0000c00,
  0x329c6009390e009390d003290d003383b0000c00, 0x78fc00978980000c00, 0x1289930000c00,
  0x1659ab08d84df081243808104370000c00, 0x1669ab08d84df081243808104370000c00,
  0x159a71c504ad1c524a9150a45514a4453124c44f0bb844e148e447035c43b153c43421b842721b6426148c41f034841d0000c00,
  0x1a95a00198fc001a8fa00198fa008e8ec00198ec008e8df008e864001a86400198640000c00,
  0x3395a00328fc00338fa00328fa00938ec00328ec00938df0093864003386400328640000c00,
  0x499c800a18ee0000c00, 0x499c801048ee0000c00,
  0x159a71c504ad1c524a9150a45514a4453137844f0bb844e148e447035c43b153c43421b842721b6426148c41f034841d0000c00,
  0x1a9c9008e92700198fc008e8ec00198ec008e86f001a86f001986f0000c00,
  0x339c9009392700328fc00938ec00328ec009386f003386f003286f0000c00,
  0x3a9ca00079ca00078fc003a8ee0000c00, 0x999ca00449ca00448fc00998ee0000c00,
  0x3d9ca00079ca00078fc003d8ee0000c00, 0x791f044e43b0000c00,
  0x20724b029604a91fe044f101e44e032244121b842721b642601f041d0fbc4070000c00,
  0x7910003a8f000078f0003a8df042043b0000c00, 0x4f8bd0142424020a4110000c00,
  0x589cb04ac5690884568049a567049856604965650490564048c563048a56204885610484560048655e22344e708824a3280845b04944390492438048e43709464360ca8425014242402b041d020a4110000c00,
  0x539cb04ac5690884568049a567049856604965650490564048c563048a56204885610484560048655e22344e708824a3280845b04944390492438048e43709464360ca8425014242402b041d020a4110000c00,
  0x7c9cb04ac5690884568049a567049856604965650490564048c563048a56204885610484560048655e22344e708824a3280845b04944390492438048e43709464360ca8425014242402b041d020a4110000c00,
  0xaa9cb04ac5690884568049a567049856604965650490564048c563048a56204885610484560048655e22344e708824a3280845b04944390492438048e43709464360ca8425014242402b041d020a4110000c00,
  0xab9cb04ac5690884568049a567049856604965650490564048c563048a56204885610484560048655e22344e708824a3280845b04944390492438048e43709464360ca8425014242402b041d020a4110000c00,
  0xac9cc0496565048c563048655e22344e7280845b04944390ca8425014242402b041d020a4110000c00,
  0xac9cd049656522344e7280845b0ca8425014242400ac82402b041d020a4110000c00,
  0xac9ce049856604965650490564048c5630484560048655e22344e7280845b04944390492438048e4370ca8425014242402b041d020a4110000c00,
  0xac9cf049856604965650490564048c56304885610484560048655e22344e7280845b04944390492438048e4370ca8425014242402b041d020a4110000c00,
  0xac9d00496565048655e22344e7280845b04944390ca8425014242400ac82402b041d020a4110000c00,
  0xac9d104985660496565048c5630484560048655e22344e7280845b04944390ca8425014242402b041d020a4110000c00,
  0xac9d204985660496565048c5630484560048655e22344e7280845b0494439048e4370ca8425014242402b041d020a4110000c00,
  0xac9d3049856604965650490564048c5630484560048655e22344e7280845b0494439048e4370ca8425014242402b041d020a4110000c00,
  0xac9d40496565048655e22344e7280845b0ca8425014242400ac82402b041d020a4110000c00,
  0xac9d50884568049656522344e708824a3280845b09464360ca8425014242400ac82402b041d020a4110000c00,
  0xac9d60496565048c5630484560048655e22344e7280845b04944390ca8425014242402b041d020a4110000c00,
  0xac9d7049856604965650490564048c563048a56204885610484560048655e22344e7280845b04944390492438048e4370ca8425014242402b041d020a4110000c00,
  0xb89cb04ac5690884568049a567049856604965650490564048c563048a56204885610484560048655e22344e708824a3280845b04944390492438048e43709464360ca8425014242402b041d020a4110000c00,
  0xf79cb04ac5690884568049a567049856604965650490564048c563048a56204885610484560048655e22344e708824a3280845b04944390492438048e43709464360ca8425014242402b041d020a4110000c00,
  0xf99cb04ac5690884568049a567049856604965650490564048c563048a56204885610484560048655e22344e708824a3280845b04944390492438048e43709464360ca8425014242402b041d020a4110000c00,
  0xfe9cb04ac5690884568049a567049856604965650490564048c563048a56204885610484560048655e22344e708824a3280845b04944390492438048e43709464360ca8425014242402b041d020a4110000c00,
  0xff9cb04ac5690884568049a567049856604965650490564048c563048a56204885610484560048655e22344e708824a3280845b04944390492438048e43709464360ca8425014242402b041d020a4110000c00,
  0x1639cb04ac5690884568049a567049856604965650490564048c563048a56204885610484560048655e22344e708824a3280845b04944390492438048e43709464360ca8425014242402b041d020a4110000c00,
  0x1e9d822344e7280845b0ca84250142424001e82402b041d020a4110000c00,
  0x299d9088456822344e708824a3280845b09464360ca84250142424002982402b041d020a4110000c00]

/-- The rows of actions 1408 to 1471. -/
def rows22 : Array Nat := #[
  0x2f9cb04ac5690884568049a567049856604965650490564048c563048a56204885610484560048655e22344e708824a3280845b04944390492438048e43709464360ca8425014242402b041d020a4110000c00,
  0x3f9da22344e7280845b0142424003f82402b041d020a4110000c00, 0x78d803ea43b0000c00, 0x791f0000c00,
  0x78da032643b0000c00, 0xd91f0000c00, 0x1b9db00078aa001b8a500078a50000c00,
  0x2695a00078d7002683c000783c0000c00, 0x78d7002583d002583c000783c037043b002583b0000c00,
  0x424569088456804045670402566040056503fa56403f656303f456203f256103ec56003ee55e22344e708824a3280845b102e459022844e03fe43903fc43803f843709464360ca8425013842402b041d020a4110000c00,
  0x3491f0000c00, 0x4491f0000c00, 0x4991f0000c00, 0x3f91f0000c00,
  0x32a56907c456803425670340566033e56503385640334563033256203305610328560032c55e22344e707c24a3068c4a126dc45b005384e033c439033a43803364370a2c4361012425012e424027e41d02064110000c00,
  0x5891f0000c00,
  0x424569088456804045670402566040056503fa56403f656303f456203f256103ec56003ee55e22344e708824a3280845b105a459022844e03fe43903fc43803f843709464360ca8425013842402b041d020a4110000c00,
  0x424569088456804045670402566040056503fa56403f656303f456203f256103ec56003ee55e22344e708824a3006386a280845b03fe43903fc43803f843709464360ca8425013842402b041d020a4110000c00,
  0x21384b029604a90017871032244121b842721b642601f041d0fbc4070000c00, 0x6591f0000c00,
  0x159a71c505581c524a914a44530e6c44f0bb844e035c43b153c43421b842721b6426034841d0000c00,
  0x159a71c504ae1c524a914a44530e6c44f0bb844e035c43b153c43421b842721b6426148c41f034841d0000c00,
  0x6891f0000c00,
  0x424569088456804045670402566040056503fa56403f656303f456203f256103ec56003ee55e22344e708824a3280845b03f044e03fe43903fc43803f843709464360ca8425013842402b041d0258412020a4110000c00,
  0x719dc00078d70000c00, 0x7f91f0000c00,
  0x1c5055800159561c764a914a8453154643421b842721b6426034841d0000c00,
  0x869dd04ac5690884568049a567049856604965650490564048c563048a56204885610484560048655e22344e708824a3280845b04944390492438048e43709464360ca8425014242402b041d020a4110000c00,
  0x8991f0000c00, 0x8b91f0000c00, 0x8c91f0000c00, 0x1086590008d8da0000c00,
  0x1c5055800159381c7a4a914ac453155243421b842721b6426034841d0000c00,
  0x1593818204ae17284a91224453155243421984272196426108841f029241d0000c00,
  0x3a9de00079de003a94300078fc0000c00,
  0x424569088456804045670402566040056503fa56403f656303f456203f256103ec56003ee55e22344e708824a3280845b215244f03f044e03fe43903fc43803f843709464360ca8425013842402b041d020a4110000c00,
  0xa891f0000c00, 0xab91f0000c00,
  0x3bc5690884568038a567038856603865650380564037c563037a56203785610372560037455e22344e708824a30de0464280845b023c44e03844390382438037e43709464360ca8425013442402b041d020a4110000c00,
  0xb491f0000c00,
  0xb69df032a56907c456803425670340566033e56503385640334563033256203305610328560032c55e22344e707c24a326dc45b033c439033a43803364370a2c4361012425012e424027e41d02064110000c00,
  0x424569088456804045670402566040056503fa56403f656303f456203f256103ec56003ee55e22344e708824a3280845b0a4245903f044e03fe43903fc43803f843709464360ca8425013842402b041d020a4110000c00,
  0xc591f0000c00, 0xc79db007f8aa00c78a5007f8a50000c00, 0xca91f0000c00, 0x8491f0000c00,
  0x1ab85351a9e4a9147e455147c45413ea453120c452279644f11f044e134a44703de441153a43421b842721b6426134841f034841d0000c00,
  0xd59df032a56907c456803425670340566033e56503385640334563033256203305610328560032c55e22344e707c24a326dc45b033c439033a43803364370a2c4361012425012e424027e41d02064110000c00,
  0x424569088456804045670402566040056503fa56403f656303f456203f256103ec56003ee55e22344e708824a3280845b03f044e03fe43903fc43803f843709464360ca8425013842402b041d0264412020a4110000c00,
  0xe29dc00078d70000c00, 0xe991f0000c00,
  0x424569088456804045670402566040056503fa56403f656303f456203f256103ec56003ee55e22344e708824a300eb86a280845b03fe43903fc43803f843709464360ca8425013842402b041d020a4110000c00,
  0x1c5055800159561c8e4a914b0453155643421b842721b6426034841d0000c00,
  0x1595618204ae16e04a9122845315564342198427219642610b641f03d641d0000c00,
  0x1c5055800159561d3e4a914d645315aa43421b842721b6426034841d0000c00, 0xf691f0000c00,
  0xf791f0000c00, 0xf891f0000c00, 0xf991f0000c00, 0xfa91f0000c00, 0xfd91f0000c00, 0x10091f0000c00,
  0x1c5055800159381c964a914b6453156a43421b842721b6426034841d0000c00,
  0x1593818204ae17304a9122c453156a4342198427219642610c041f03d641d0000c00]

/-- The rows of actions 1472 to 1535. -/
def rows23 : Array Nat := #[
  0x919e100079e022a04e7275445b0000c00, 0x79e200979e10000c00, 0x999de00449de009994300448fc0000c00,
  0x3a90900078fc003a8ec00078ec006285c044e43b0000c00,
  0x424569088456804045670402566040056503fa56403f656303f456203f256103ec56003ee55e22344e708824a3280845b0a4445903f044e03fe43903fc43803f843709464360ca8425013842402b041d020a4110000c00,
  0x12791f0000c00, 0xf191f0000c00, 0x12991f0000c00,
  0x424569088456804045670402566040056503fa56403f656303f456203f256103ec56003ee55e22344e708824a3001845c280845b03f044e03fe43903fc43803f843709464360ca8425013842402b041d020a4110000c00,
  0x3bc5690884568038a567038856603865650380564037c563037a56203785610372560037455e22344e708824a3075a464280845b037644e03844390382438037e43709464360ca8425013442402b041d020a4110000c00,
  0x3bc5690884568038a567038856603865650380564037c563037a56203785610372560037455e22344e708824a3075c464280845b037644e03844390382438037e43709464360ca8425013442402b041d020a4110000c00,
  0x3bc5690884568038a567038856603865650380564037c563037a56203785610372560037455e22344e708824a30052464280845b037644e03844390382438037e43709464360ca8425013442402b041d020a4110000c00,
  0x424569088456804045670402566040056503fa56403f656303f456203f256103ec56003ee55e22344e708824a3280845b03f044e03fe43903fc43803f843709464360ca8425013842402b041d0268412020a4110000c00,
  0x13c9dc00078d70000c00, 0x1c5055800159561ca04a914ba453156e43421b842721b6426034841d0000c00,
  0x1595618204ae16ec4a91230453156e4342198427219642610dc41f03d641d0000c00,
  0x1595618204ae16ee4a9121e45315ac43421984272196426110c41f03d641d0000c00,
  0x1595618204ae16f84a9121e45315ac43421984272196426110c41f03d641d0000c00, 0x14691f0000c00,
  0x1c5055800159381ca44a914be453158843421b842721b6426034841d0000c00,
  0x1593818204ae173c4a9123245315884342198427219642610e641f03d641d0000c00,
  0x159341c504b01cf44a9005d871005c8710015871035c43b21b842721b6426034841d0000c00,
  0x1593818204ae173e4a9126e45315a04342198427219642611d441f03d641d0000c00, 0x16991f0000c00,
  0x14491f0000c00, 0x14891f0000c00, 0x16791f0000c00,
  0x3bc5690884568038a567038856603865650380564037c563037a56203785610372560037455e22344e708824a3075e464280845b037644e03844390382438037e43709464360ca8425013442402b041d020a4110000c00,
  0x3bc5690884568038a567038856603865650380564037c563037a56203785610372560037455e22344e708824a30058464280845b037644e03844390382438037e43709464360ca8425013442402b041d020a4110000c00,
  0x3bc5690884568038a567038856603865650380564037c563037a56203785610372560037455e22344e708824a3005a464280845b037644e03844390382438037e43709464360ca8425013442402b041d020a4110000c00,
  0x1789dc00078d70000c00, 0x1c5055800159561cae4a914c2453158c43421b842721b6426034841d0000c00,
  0x1595618204ae16fa4a91234453158c4342198427219642610f841f03d641d0000c00,
  0x1595618204ae16fc4a9122645315ae43421984272196426111841f03d641d0000c00,
  0x1595618204ae16fe4a9122645315ae43421984272196426111841f03d641d0000c00,
  0x1595618204ae17024a9122645315ae43421984272196426111841f03d641d0000c00,
  0x1c5055800159381cb24a914c4453159643421b842721b6426034841d0000c00,
  0x1593818204ae17404a9123645315964342198427219642610fc41f03d641d0000c00,
  0x1593818204ae17424a9127045315a24342198427219642611da41f03d641d0000c00, 0x17f91f0000c00,
  0x18e91f0000c00,
  0x3bc5690884568038a567038856603865650380564037c563037a56203785610372560037455e22344e708824a30760464280845b037644e03844390382438037e43709464360ca8425013442402b041d020a4110000c00,
  0x3bc5690884568038a567038856603865650380564037c563037a56203785610372560037455e22344e708824a30764464280845b037644e03844390382438037e43709464360ca8425013442402b041d020a4110000c00,
  0x3bc5690884568038a567038856603865650380564037c563037a56203785610372560037455e22344e708824a30768464280845b037644e03844390382438037e43709464360ca8425013442402b041d020a4110000c00,
  0x3bc5690884568038a567038856603865650380564037c563037a56203785610372560037455e22344e708824a3005e464280845b037644e03844390382438037e43709464360ca8425013442402b041d020a4110000c00,
  0x1c5055800159561cba4a914c6453159843421b842721b6426034841d0000c00,
  0x1595618204ae17044a9122e45315b043421984272196426112441f03d641d0000c00,
  0x1c5055800159381cbc4a914c8453159a43421b842721b6426034841d0000c00,
  0x1593818204ae17444a9127245315a44342198427219642611de41f03d641d0000c00, 0x269dc00078d70000c00,
  0x1c5055800159561d484a914d845315ac43421b842721b6426034841d0000c00,
  0x159a71c505581c524a914a44530d3844f0bb844e035c43b153c43421b842721b6426034841d0000c00,
  0x159a71c504ae1c524a914a44530d3844f0bb844e035c43b153c43421b842721b6426148c41f034841d0000c00,
  0x849ad00859ac06a84940000c00, 0x7919003a8f000078f0003a8df037043b0000c00,
  0x1c5055800159561d4c4a914da45315ae43421b842721b6426034841d0000c00, 0xf19ad00f29ac06d84940000c00,
  0xf19ad00f29ac06da4940000c00, 0xf89ad00fc9ac06e24940000c00,
  0x78fc003a8ec00078ec003a8df006286f003a86f000786f006285c03ea43b0000c00,
  0x1299ad012a9ac06f44940000c00, 0x1c5055800159561d4e4a914dc45315b043421b842721b6426034841d0000c00,
  0x1449ad01439ac07004940000c00, 0x1489ad01499ac07024940000c00]

/-- The rows of actions 1536 to 1599. -/
def rows24 : Array Nat := #[
  0x1469ad014a9ac07044940000c00, 0x1679ad01689ac07104940000c00, 0x1679ad01689ac07124940000c00,
  0x1c5055800159561d504a914de45315b243421b842721b6426034841d0000c00, 0x17f9ad01809ac071e4940000c00,
  0x18e9ad018d9ac07264940000c00,
  0x159a71c505581c524a914a44530d0a44f0bb844e035c43b153c43421b842721b6426034841d0000c00,
  0x159a71c504ae1c524a914a44530d0a44f0bb844e035c43b153c43421b842721b6426148c41f034841d0000c00,
  0x859e300848d70000c00, 0x3a91a00078fc003a8ec00078ec03ea43b002583b0000c00,
  0x79c6003d90e003d90d000790d0000c00, 0xf29e300f18d70000c00, 0xfc9e400f88d7202e4940000c00,
  0x12a9e301298d70000c00, 0x1439e301448d70000c00, 0x1499e401488d720484940000c00,
  0x14a9e401468d7204a4940000c00, 0x1689e301678d70000c00, 0x1809e4017f8d7205c4940000c00,
  0x18d9e3018e8d70000c00,
  0x159a71c505581c524a914a44530e0244f0bb844e035c43b153c43421b842721b6426034841d0000c00,
  0x159a71c504ae1c524a914a44530e0244f0bb844e035c43b153c43421b842721b6426148c41f034841d0000c00,
  0x1086590008d8db0000c00, 0x79c6003a90e003a90d000790d0000c00,
  0x791c003a90e003a90d000790d03b843b0000c00, 0x449c6009990e009990d004490d0000c00,
  0x159a71c505581c524a914a4453124c44f0bb844e035c43b153c43421b842721b6426034841d0000c00,
  0x159a71c504ae1c524a914a4453124c44f0bb844e035c43b153c43421b842721b6426148c41f034841d0000c00,
  0x3a9e500079e500079e2003a8df0000c00, 0x999e500449e500449e200998df0000c00,
  0x159a71c505581c524a914a4453137844f0bb844e035c43b153c43421b842721b6426034841d0000c00,
  0x159a71c504ae1c524a914a4453137844f0bb844e035c43b153c43421b842721b6426148c41f034841d0000c00,
  0x15934001c8b40e0244f001584f0bb844e001584e035c43b0000c00,
  0x15934001d8b40e0244f001584f0bb844e001584e035c43b0000c00, 0x499e600a19090000c00,
  0x499e601049090000c00, 0x15934001c8b40e6c44f001584f0bb844e001584e035c43b0000c00,
  0x15934001d8b40e6c44f001584f0bb844e001584e035c43b0000c00,
  0x1a9c9008e90900198fc008e8ec00198ec0000c00, 0x339c9009390900328fc00938ec00328ec0000c00,
  0x1991c008e90e008e90d001990d001a83b0000c00, 0x3291c009390e009390d003290d003383b0000c00,
  0x15934001c8b40d0a44f001584f0bb844e001584e035c43b0000c00,
  0x15934001d8b40d0a44f001584f0bb844e001584e035c43b0000c00,
  0x15934001c8b40d3844f001584f0bb844e001584e035c43b0000c00,
  0x15934001d8b40d3844f001584f0bb844e001584e035c43b0000c00,
  0x15934001c8b4126044f001584f0bb844e001584e035c43b0000c00,
  0x15934001d8b4126044f001584f0bb844e001584e035c43b0000c00,
  0x424569088456804045670402566040056503fa56403f656303f456203f256103ec56003ee55e22344e708824a3280845b0cb2459022844e03fe43903fc43803f843709464360ca8425013842402b041d020a4110000c00,
  0x4f8c0013642402064110000c00,
  0x589e7055656907c456803d256703d056603ce56503c856403c456303c256203c056103ba56003be55e22344e707c24a326dc45b03cc43903ca43803c64370a2c43610124250136424027e41d02064110000c00,
  0x539e7055656907c456803d256703d056603ce56503c856403c456303c256203c056103ba56003be55e22344e707c24a326dc45b03cc43903ca43803c64370a2c43610124250136424027e41d02064110000c00,
  0x7c9e7055656907c456803d256703d056603ce56503c856403c456303c256203c056103ba56003be55e22344e707c24a326dc45b03cc43903ca43803c64370a2c43610124250136424027e41d02064110000c00,
  0xaa9e7055656907c456803d256703d056603ce56503c856403c456303c256203c056103ba56003be55e22344e707c24a326dc45b03cc43903ca43803c64370a2c43610124250136424027e41d02064110000c00,
  0xab9e7055656907c456803d256703d056603ce56503c856403c456303c256203c056103ba56003be55e22344e707c24a326dc45b03cc43903ca43803c64370a2c43610124250136424027e41d02064110000c00,
  0xac9e803ce56503c456303be55e22344e726dc45b03cc43910124250136424027e41d02064110000c00,
  0x3bc5690884568038a567038856603865650380564037c563037a56203785610372560037455e22344e708824a30bbe464280845b023c44e03844390382438037e43709464360ca8425013442402b041d020a4110000c00,
  0xac9e903ce56522344e726dc45b1012425013642400ac824027e41d02064110000c00,
  0x424569088456804045670402566040056503fa56403f656303f456203f256103ec56003ee55e22344e708824a3280845b095045903f044e03fe43903fc43803f843709464360ca8425013842402b041d020a4110000c00,
  0xac9ea03d056603ce56503c856403c456303ba56003be55e22344e726dc45b03cc43903ca43803c643710124250136424027e41d02064110000c00,
  0xac9eb03d056603ce56503c856403c456303c056103ba56003be55e22344e726dc45b03cc43903ca43803c643710124250136424027e41d02064110000c00,
  0xac9ec03ce56503be55e22344e726dc45b03cc4391012425013642400ac824027e41d02064110000c00,
  0xac9ed03d056603ce56503c456303ba56003be55e22344e726dc45b03cc43910124250136424027e41d02064110000c00,
  0xac9ee03d056603ce56503c456303ba56003be55e22344e726dc45b03cc43903c643710124250136424027e41d02064110000c00]

/-- The rows of actions 1600 to 1663. -/
def rows25 : Array Nat := #[
  0xac9ef03d056603ce56503c856403c456303ba56003be55e22344e726dc45b03cc43903c643710124250136424027e41d02064110000c00,
  0xac9f003ce56503be55e22344e726dc45b1012425013642400ac824027e41d02064110000c00,
  0xac9f107c456803ce56522344e707c24a326dc45b0a2c4361012425013642400ac824027e41d02064110000c00,
  0xac9f203ce56503c456303ba56003be55e22344e726dc45b03cc43910124250136424027e41d02064110000c00,
  0xac9f303d056603ce56503c856403c456303c256203c056103ba56003be55e22344e726dc45b03cc43903ca43803c643710124250136424027e41d02064110000c00,
  0xb89e7055656907c456803d256703d056603ce56503c856403c456303c256203c056103ba56003be55e22344e707c24a326dc45b03cc43903ca43803c64370a2c43610124250136424027e41d02064110000c00,
  0xf79e7055656907c456803d256703d056603ce56503c856403c456303c256203c056103ba56003be55e22344e707c24a326dc45b03cc43903ca43803c64370a2c43610124250136424027e41d02064110000c00,
  0xf99e7055656907c456803d256703d056603ce56503c856403c456303c256203c056103ba56003be55e22344e707c24a326dc45b03cc43903ca43803c64370a2c43610124250136424027e41d02064110000c00,
  0xfe9e7055656907c456803d256703d056603ce56503c856403c456303c256203c056103ba56003be55e22344e707c24a326dc45b03cc43903ca43803c64370a2c43610124250136424027e41d02064110000c00,
  0xff9e7055656907c456803d256703d056603ce56503c856403c456303c256203c056103ba56003be55e22344e707c24a326dc45b03cc43903ca43803c64370a2c43610124250136424027e41d02064110000c00,
  0x424569088456804045670402566040056503fa56403f656303f456203f256103ec56003ee55e22344e708824a3280845b095245903f044e03fe43903fc43803f843709464360ca8425013842402b041d020a4110000c00,
  0x1639e7055656907c456803d256703d056603ce56503c856403c456303c256203c056103ba56003be55e22344e707c24a326dc45b03cc43903ca43803c64370a2c43610124250136424027e41d02064110000c00,
  0x3bc5690884568038a567038856603865650380564037c563037a56203785610372560037455e22344e708824a30794464280845b023c44e03844390382438037e43709464360ca8425013442402b041d020a4110000c00,
  0x3bc5690884568038a567038856603865650380564037c563037a56203785610372560037455e22344e708824a3137e464280845b023c44e03844390382438037e43709464360ca8425013442402b041d020a4110000c00,
  0x3bc5690884568038a567038856603865650380564037c563037a56203785610372560037455e22344e708824a3176a464280845b023c44e03844390382438037e43709464360ca8425013442402b041d020a4110000c00,
  0x3bc5690884568038a567038856603865650380564037c563037a56203785610372560037455e22344e708824a318aa464280845b023c44e03844390382438037e43709464360ca8425013442402b041d020a4110000c00,
  0x3bc5690884568038a567038856603865650380564037c563037a56203785610372560037455e22344e708824a31a3e464280845b023c44e03844390382438037e43709464360ca8425013442402b041d020a4110000c00,
  0x1e9f422344e726dc45b10124250136424001e824027e41d02064110000c00,
  0x299f507c456822344e707c24a326dc45b0a2c436101242501364240029824027e41d02064110000c00,
  0x2f9e7055656907c456803d256703d056603ce56503c856403c456303c256203c056103ba56003be55e22344e707c24a326dc45b03cc43903ca43803c64370a2c43610124250136424027e41d02064110000c00,
  0x3f9f622344e726dc45b0136424003f824027e41d02064110000c00,
  0x1c5055800159381cfe4a914ce45315a043421b842721b6426034841d0000c00,
  0x3bc5690884568038a567038856603865650380564037c563037a56203785610372560037455e22344e708824a30072464280845b037644e03844390382438037e43709464360ca8425013442402b041d020a4110000c00,
  0x1c5055800159381d0a4a914d045315a243421b842721b6426034841d0000c00,
  0x3bc5690884568038a567038856603865650380564037c563037a56203785610372560037455e22344e708824a30078464280845b037644e03844390382438037e43709464360ca8425013442402b041d020a4110000c00,
  0x3bc5690884568038a567038856603865650380564037c563037a56203785610372560037455e22344e708824a3007a464280845b037644e03844390382438037e43709464360ca8425013442402b041d020a4110000c00,
  0x1c5055800159381d0c4a914d245315a443421b842721b6426034841d0000c00,
  0x3bc5690884568038a567038856603865650380564037c563037a56203785610372560037455e22344e708824a3007e464280845b037644e03844390382438037e43709464360ca8425013442402b041d020a4110000c00,
  0x1c5055800159381d0e4a914d445315a643421b842721b6426034841d0000c00,
  0x7920003a8f000078f0003a8df048243b0000c00,
  0x424569088456804045670402566040056503fa56403f656303f456203f256103ec56003ee55e22344e708824a3280845b03f044e03fe43903fc43803f843709464360ca8425013842402b041d026c412020a4110000c00,
  0x424569088456804045670402566040056503fa56403f656303f456203f256103ec56003ee55e22344e708824a3280845b03f044e03fe43903fc43803f843709464360ca8425013842402b041d0270412020a4110000c00,
  0x78db042043b0000c00,
  0x424569088456804045670402566040056503fa56403f656303f456203f256103ec56003ee55e22344e708824a3280845b03f044e03fe43903fc43803f843709464360ca8425013842402b041d025e412020a4110000c00,
  0x55656907c456803d256703d056603ce56503c856403c456303c256203c056103ba56003be55e22344e707c24a3068a4a126dc45b03cc43903ca43803c64370a2c43610124250136424027e41d02064110000c00,
  0x159a71c504ad1c524a9005d871005c871150a45514a4453148e447035c43b153c43421b842721b6426148c41f034841d0000c00,
  0x78d7006286a000786a03ea43b0000c00,
  0x1c6a5351a9e4a90016871149845514964541430453133e45213e844703de441153a43421b842721b642613e641f034841d0000c00,
  0x159a71c504b01c524a90e6c44f0bb844e035c43b21b842721b6426034841d0000c00,
  0x78dc029046d029046c000786c03ea43b0000c00,
  0x424569088456804045670402566040056503fa56403f656303f456203f256103ec56003ee55e22344e708824a3007d86f280845b03fe43903fc43803f843709464360ca8425013842402b041d020a4110000c00,
  0x159561c504b01c764a921b842721b6426034841d0000c00,
  0x1550533182053216da4a912184550e7445412044530e944520e9644715a8434154e4310d2e42f206e42d21984272196426107641f03d641d0000c00,
  0x159381c504b01c7a4a921b842721b6426034841d0000c00,
  0x424569088456804045670402566040056503fa56403f656303f456203f256103ec56003ee55e22344e708824a300cb871280845b03fe43903fc43803f843709464360ca8425013842402b041d020a4110000c00,
  0x1595618204b019144a92198427219642603d641d0000c00,
  0x159561c504b01c904a921b842721b6426034841d0000c00,
  0x159561c504b01d3e4a921b842721b6426034841d0000c00,
  0x55656907c456803d256703d056603ce56503c856403c456303c256203c056103ba56003be55e22344e707c24a306f049426dc45b03cc43903ca43803c64370a2c43610124250136424027e41d06f241202064110000c00,
  0x424569088456804045670402566040056503fa56403f656303f456203f256103ec56003ee55e22344e708824a300c4871280845b03fe43903fc43803f843709464360ca8425013842402b041d020a4110000c00,
  0x424569088456804045670402566040056503fa56403f656303f456203f256103ec56003ee55e22344e708824a300c9871280845b03fe43903fc43803f843709464360ca8425013842402b041d020a4110000c00,
  0x159a71c504ad1c524a9150a45514a445327c844f11f044e148e447153c43421b842721b6426148c41f034841d0000c00,
  0x1595618204b0191e4a92198427219642603d641d0000c00,
  0x55656907c456803d256703d056603ce56503c856403c456303c256203c056103ba56003be55e22344e707c24a31ffc4a126dc45b03cc43903ca43803c64370a2c43610124250136424027e41d02064110000c00,
  0x78e1037043b0000c00, 0xd9f7000b9ac0000c00, 0x159561c504b01d484a921b842721b6426034841d0000c00,
  0x159a8001d8b40000c00, 0x159a71c504b01c524a90d3844f0bb844e035c43b21b842721b6426034841d0000c00,
  0x3bc5690884568038a567038856603865650380564037c563037a56203785610372560037455e22344e708824a300b68a0280845b03844390382438037e43709464360ca8425013442402b041d020a4110000c00,
  0x159561c504b01d4c4a921b842721b6426034841d0000c00,
  0x3bc5690884568038a567038856603865650380564037c563037a56203785610372560037455e22344e708824a300d58a0280845b03844390382438037e43709464360ca8425013442402b041d020a4110000c00,
  0x159561c504b01c8e4a921b842721b6426034841d0000c00,
  0x159381c504b01c964a921b842721b6426034841d0000c00]

/-- The rows of actions 1664 to 1727. -/
def rows26 : Array Nat := #[
  0x159561c504b01d4e4a921b842721b6426034841d0000c00,
  0x159561c504b01ca04a921b842721b6426034841d0000c00,
  0x159561c504b01ca24a921b842721b6426034841d0000c00,
  0x159381c504b01ca44a921b842721b6426034841d0000c00,
  0x159561c504b01d504a921b842721b6426034841d0000c00,
  0x159561c504b01cae4a921b842721b6426034841d0000c00,
  0x159381c504b01cb24a921b842721b6426034841d0000c00,
  0x159561c504b01cba4a921b842721b6426034841d0000c00,
  0x159381c504b01cbc4a921b842721b6426034841d0000c00, 0xd9f8000b9e30000c00,
  0x159a71c504b01c524a90d0a44f0bb844e035c43b21b842721b6426034841d0000c00, 0xce4590008d8e20000c00,
  0x498e100a18df0000c00, 0x498e101048df0000c00,
  0x159a71c504b01c524a90e0244f0bb844e035c43b21b842721b6426034841d0000c00,
  0x3d9de00079de003d92700078fc0000c00, 0xa190e00498b50000c00, 0x10490e00498b50000c00,
  0x339f900328dc003386c003286c0000c00, 0x5b9f9005a8dc005b86c005a86c0000c00,
  0x1a9f900198dc001a86c001986c0000c00,
  0x159a71c504b01c524a9124c44f0bb844e035c43b21b842721b6426034841d0000c00,
  0x7928003a91e000791e003a8df03ea43b0000c00, 0x79c700918fe22a04e7275445b0000c00,
  0x978fe00078fc0000c00, 0x159a71c504b01c524a9137844f0bb844e035c43b21b842721b6426034841d0000c00,
  0x791c003a90e003a90d000790d0000c00, 0x791c003d90e003d90d000790d0000c00,
  0x4491c009990e009990d004490d0000c00, 0x5b9c9005a8d7005b86f005a86f0000c00,
  0x19928008e91e001991e008e8df001a83b0000c00, 0x32928009391e003291e00938df003383b0000c00,
  0x55656907c456803d256703d056603ce56503c856403c456303c256203c056103ba56003be55e22344e707c24a31ffa4a126dc45b03cc43903ca43803c64370a2c43610124250136424027e41d02064110000c00,
  0x55656907c456803d256703d056603ce56503c856403c456303c256203c056103ba56003be55e22344e707c24a3203a49426dc45b03cc43903ca43803c64370a2c43610124250136424027e41d203c41202064110000c00,
  0x424569088456804045670402566040056503fa56403f656303f456203f256103ec56003ee55e22344e708824a300d5871280845b03fe43903fc43803f843709464360ca8425013842402b041d020a4110000c00,
  0x159381c504b01cfe4a921b842721b6426034841d0000c00,
  0x159381c504b01d0a4a921b842721b6426034841d0000c00,
  0x159381c504b01d0c4a921b842721b6426034841d0000c00,
  0x159381c504b01d0e4a921b842721b6426034841d0000c00, 0x4f8c5013c424020a4110000c00,
  0x589fa04de569088456804cc56704ca56604c856504c256404be56304bc56204ba56104b656004b855e22344e708824a3280845b04c643904c443804c043709464360ca8425013c42402b041d020a4110000c00,
  0x539fa04de569088456804cc56704ca56604c856504c256404be56304bc56204ba56104b656004b855e22344e708824a3280845b04c643904c443804c043709464360ca8425013c42402b041d020a4110000c00,
  0x7c9fa04de569088456804cc56704ca56604c856504c256404be56304bc56204ba56104b656004b855e22344e708824a3280845b04c643904c443804c043709464360ca8425013c42402b041d020a4110000c00,
  0xaa9fa04de569088456804cc56704ca56604c856504c256404be56304bc56204ba56104b656004b855e22344e708824a3280845b04c643904c443804c043709464360ca8425013c42402b041d020a4110000c00,
  0xab9fa04de569088456804cc56704ca56604c856504c256404be56304bc56204ba56104b656004b855e22344e708824a3280845b04c643904c443804c043709464360ca8425013c42402b041d020a4110000c00,
  0xac9fb04c856504be56304b855e22344e7280845b04c64390ca8425013c42402b041d020a4110000c00,
  0xac9fc04c856522344e7280845b0ca8425013c42400ac82402b041d020a4110000c00,
  0xac9fd04ca56604c856504c256404be56304b656004b855e22344e7280845b04c643904c443804c04370ca8425013c42402b041d020a4110000c00,
  0xac9fe04ca56604c856504c256404be56304ba56104b656004b855e22344e7280845b04c643904c443804c04370ca8425013c42402b041d020a4110000c00,
  0xac9ff04c856504b855e22344e7280845b04c64390ca8425013c42400ac82402b041d020a4110000c00,
  0xaca0004ca56604c856504be56304b656004b855e22344e7280845b04c64390ca8425013c42402b041d020a4110000c00,
  0xaca0104ca56604c856504be56304b656004b855e22344e7280845b04c643904c04370ca8425013c42402b041d020a4110000c00,
  0xaca0204ca56604c856504c256404be56304b656004b855e22344e7280845b04c643904c04370ca8425013c42402b041d020a4110000c00,
  0xaca0304c856504b855e22344e7280845b0ca8425013c42400ac82402b041d020a4110000c00,
  0xaca04088456804c856522344e708824a3280845b09464360ca8425013c42400ac82402b041d020a4110000c00,
  0xaca0504c856504be56304b656004b855e22344e7280845b04c64390ca8425013c42402b041d020a4110000c00,
  0xaca0604ca56604c856504c256404be56304bc56204ba56104b656004b855e22344e7280845b04c643904c443804c04370ca8425013c42402b041d020a4110000c00,
  0xb89fa04de569088456804cc56704ca56604c856504c256404be56304bc56204ba56104b656004b855e22344e708824a3280845b04c643904c443804c043709464360ca8425013c42402b041d020a4110000c00,
  0xf79fa04de569088456804cc56704ca56604c856504c256404be56304bc56204ba56104b656004b855e22344e708824a3280845b04c643904c443804c043709464360ca8425013c42402b041d020a4110000c00,
  0xf99fa04de569088456804cc56704ca56604c856504c256404be56304bc56204ba56104b656004b855e22344e708824a3280845b04c643904c443804c043709464360ca8425013c42402b041d020a4110000c00,
  0xfe9fa04de569088456804cc56704ca56604c856504c256404be56304bc56204ba56104b656004b855e22344e708824a3280845b04c643904c443804c043709464360ca8425013c42402b041d020a4110000c00,
  0xff9fa04de569088456804cc56704ca56604c856504c256404be56304bc56204ba56104b656004b855e22344e708824a3280845b04c643904c443804c043709464360ca8425013c42402b041d020a4110000c00,
  0x1639fa04de569088456804cc56704ca56604c856504c256404be56304bc56204ba56104b656004b855e22344e708824a3280845b04c643904c443804c043709464360ca8425013c42402b041d020a4110000c00,
  0x4f8c2013e424020a4110000c00]

/-- The rows of actions 1728 to 1791. -/
def rows27 : Array Nat := #[
  0x58a07050e569088456804fe56704fc56604fa56504f456404f056304ee56204ec56104e856004ea55e22344e708824a3280845b04f843904f643804f243709464360ca8425013e42402b041d020a4110000c00,
  0x53a07050e569088456804fe56704fc56604fa56504f456404f056304ee56204ec56104e856004ea55e22344e708824a3280845b04f843904f643804f243709464360ca8425013e42402b041d020a4110000c00,
  0x7ca07050e569088456804fe56704fc56604fa56504f456404f056304ee56204ec56104e856004ea55e22344e708824a3280845b04f843904f643804f243709464360ca8425013e42402b041d020a4110000c00,
  0xaaa07050e569088456804fe56704fc56604fa56504f456404f056304ee56204ec56104e856004ea55e22344e708824a3280845b04f843904f643804f243709464360ca8425013e42402b041d020a4110000c00,
  0xaba07050e569088456804fe56704fc56604fa56504f456404f056304ee56204ec56104e856004ea55e22344e708824a3280845b04f843904f643804f243709464360ca8425013e42402b041d020a4110000c00,
  0xaca0804fa56504f056304ea55e22344e7280845b04f84390ca8425013e42402b041d020a4110000c00,
  0xaca0904fa56522344e7280845b0ca8425013e42400ac82402b041d020a4110000c00,
  0xaca0a04fc56604fa56504f456404f056304e856004ea55e22344e7280845b04f843904f643804f24370ca8425013e42402b041d020a4110000c00,
  0xaca0b04fc56604fa56504f456404f056304ec56104e856004ea55e22344e7280845b04f843904f643804f24370ca8425013e42402b041d020a4110000c00,
  0xaca0c04fa56504ea55e22344e7280845b04f84390ca8425013e42400ac82402b041d020a4110000c00,
  0xaca0d04fc56604fa56504f056304e856004ea55e22344e7280845b04f84390ca8425013e42402b041d020a4110000c00,
  0xaca0e04fc56604fa56504f056304e856004ea55e22344e7280845b04f843904f24370ca8425013e42402b041d020a4110000c00,
  0xaca0f04fc56604fa56504f456404f056304e856004ea55e22344e7280845b04f843904f24370ca8425013e42402b041d020a4110000c00,
  0xaca1004fa56504ea55e22344e7280845b0ca8425013e42400ac82402b041d020a4110000c00,
  0xaca11088456804fa56522344e708824a3280845b09464360ca8425013e42400ac82402b041d020a4110000c00,
  0xaca1204fa56504f056304e856004ea55e22344e7280845b04f84390ca8425013e42402b041d020a4110000c00,
  0xaca1304fc56604fa56504f456404f056304ee56204ec56104e856004ea55e22344e7280845b04f843904f643804f24370ca8425013e42402b041d020a4110000c00,
  0xb8a07050e569088456804fe56704fc56604fa56504f456404f056304ee56204ec56104e856004ea55e22344e708824a3280845b04f843904f643804f243709464360ca8425013e42402b041d020a4110000c00,
  0xf7a07050e569088456804fe56704fc56604fa56504f456404f056304ee56204ec56104e856004ea55e22344e708824a3280845b04f843904f643804f243709464360ca8425013e42402b041d020a4110000c00,
  0xf9a07050e569088456804fe56704fc56604fa56504f456404f056304ee56204ec56104e856004ea55e22344e708824a3280845b04f843904f643804f243709464360ca8425013e42402b041d020a4110000c00,
  0xfea07050e569088456804fe56704fc56604fa56504f456404f056304ee56204ec56104e856004ea55e22344e708824a3280845b04f843904f643804f243709464360ca8425013e42402b041d020a4110000c00,
  0xffa07050e569088456804fe56704fc56604fa56504f456404f056304ee56204ec56104e856004ea55e22344e708824a3280845b04f843904f643804f243709464360ca8425013e42402b041d020a4110000c00,
  0x163a07050e569088456804fe56704fc56604fa56504f456404f056304ee56204ec56104e856004ea55e22344e708824a3280845b04f843904f643804f243709464360ca8425013e42402b041d020a4110000c00,
  0x3bc5690884568038a567038856603865650380564037c563037a56203785610372560037455e22344e708824a300638a0280845b03844390382438037e43709464360ca8425013442402b041d020a4110000c00,
  0x3bc5690884568038a567038856603865650380564037c563037a56203785610372560037455e22344e708824a3007d8a0280845b03844390382438037e43709464360ca8425013442402b041d020a4110000c00,
  0x1ea1422344e7280845b0ca8425013c424001e82402b041d020a4110000c00,
  0x29a15088456822344e708824a3280845b09464360ca8425013c424002982402b041d020a4110000c00,
  0x2f9fa04de569088456804cc56704ca56604c856504c256404be56304bc56204ba56104b656004b855e22344e708824a3280845b04c643904c443804c043709464360ca8425013c42402b041d020a4110000c00,
  0x3fa1622344e7280845b013c424003f82402b041d020a4110000c00,
  0x1ea1722344e7280845b0ca8425013e424001e82402b041d020a4110000c00,
  0x29a18088456822344e708824a3280845b09464360ca8425013e424002982402b041d020a4110000c00,
  0x2fa07050e569088456804fe56704fc56604fa56504f456404f056304ee56204ec56104e856004ea55e22344e708824a3280845b04f843904f643804f243709464360ca8425013e42402b041d020a4110000c00,
  0x3fa1922344e7280845b013e424003f82402b041d020a4110000c00,
  0x78d7002586a000786a03ea43b002583b0000c00, 0x792a003a90e003a90d000790d04b443b0000c00,
  0x4f8c60144424020a4110000c00,
  0x58a1a053e5690884568052e567052c566052a56505245640520563051e562051c5610518560051a55e22344e708824a3280845b05284390526438052243709464360ca8425014442402b041d020a4110000c00,
  0x53a1a053e5690884568052e567052c566052a56505245640520563051e562051c5610518560051a55e22344e708824a3280845b05284390526438052243709464360ca8425014442402b041d020a4110000c00,
  0x7ca1a053e5690884568052e567052c566052a56505245640520563051e562051c5610518560051a55e22344e708824a3280845b05284390526438052243709464360ca8425014442402b041d020a4110000c00,
  0xaaa1a053e5690884568052e567052c566052a56505245640520563051e562051c5610518560051a55e22344e708824a3280845b05284390526438052243709464360ca8425014442402b041d020a4110000c00,
  0xaba1a053e5690884568052e567052c566052a56505245640520563051e562051c5610518560051a55e22344e708824a3280845b05284390526438052243709464360ca8425014442402b041d020a4110000c00,
  0xaca1b052a5650520563051a55e22344e7280845b05284390ca8425014442402b041d020a4110000c00,
  0xaca1c052a56522344e7280845b0ca8425014442400ac82402b041d020a4110000c00,
  0xaca1d052c566052a565052456405205630518560051a55e22344e7280845b0528439052643805224370ca8425014442402b041d020a4110000c00,
  0xaca1e052c566052a56505245640520563051c5610518560051a55e22344e7280845b0528439052643805224370ca8425014442402b041d020a4110000c00,
  0xaca1f052a565051a55e22344e7280845b05284390ca8425014442400ac82402b041d020a4110000c00,
  0xaca20052c566052a56505205630518560051a55e22344e7280845b05284390ca8425014442402b041d020a4110000c00,
  0xaca21052c566052a56505205630518560051a55e22344e7280845b052843905224370ca8425014442402b041d020a4110000c00,
  0xaca22052c566052a565052456405205630518560051a55e22344e7280845b052843905224370ca8425014442402b041d020a4110000c00,
  0xaca23052a565051a55e22344e7280845b0ca8425014442400ac82402b041d020a4110000c00,
  0xaca240884568052a56522344e708824a3280845b09464360ca8425014442400ac82402b041d020a4110000c00,
  0xaca25052a56505205630518560051a55e22344e7280845b05284390ca8425014442402b041d020a4110000c00,
  0xaca26052c566052a56505245640520563051e562051c5610518560051a55e22344e7280845b0528439052643805224370ca8425014442402b041d020a4110000c00,
  0xb8a1a053e5690884568052e567052c566052a56505245640520563051e562051c5610518560051a55e22344e708824a3280845b05284390526438052243709464360ca8425014442402b041d020a4110000c00,
  0xf7a1a053e5690884568052e567052c566052a56505245640520563051e562051c5610518560051a55e22344e708824a3280845b05284390526438052243709464360ca8425014442402b041d020a4110000c00,
  0xf9a1a053e5690884568052e567052c566052a56505245640520563051e562051c5610518560051a55e22344e708824a3280845b05284390526438052243709464360ca8425014442402b041d020a4110000c00,
  0xfea1a053e5690884568052e567052c566052a56505245640520563051e562051c5610518560051a55e22344e708824a3280845b05284390526438052243709464360ca8425014442402b041d020a4110000c00,
  0xffa1a053e5690884568052e567052c566052a56505245640520563051e562051c5610518560051a55e22344e708824a3280845b05284390526438052243709464360ca8425014442402b041d020a4110000c00,
  0x163a1a053e5690884568052e567052c566052a56505245640520563051e562051c5610518560051a55e22344e708824a3280845b05284390526438052243709464360ca8425014442402b041d020a4110000c00,
  0x1ea2722344e7280845b0ca84250144424001e82402b041d020a4110000c00,
  0x29a28088456822344e708824a3280845b09464360ca84250144424002982402b041d020a4110000c00,
  0x2fa1a053e5690884568052e567052c566052a56505245640520563051e562051c5610518560051a55e22344e708824a3280845b05284390526438052243709464360ca8425014442402b041d020a4110000c00,
  0x3fa2922344e7280845b0144424003f82402b041d020a4110000c00,
  0x792b003a90e003a90d000790d04e643b0000c00]

/-- The rows of actions 1792 to 1855. -/
def rows28 : Array Nat := #[
  0x78e2048243b0000c00, 0x792c003a90e003a90d000790d051643b0000c00,
  0x159a71c505581c524a9005d871005c87114a4453035c43b153c43421b842721b6426034841d0000c00,
  0x159a71c504ae1c524a9005d871005c87114a4453035c43b153c43421b842721b6426148c41f034841d0000c00,
  0x4de569088456804cc56704ca56604c856504c256404be56304bc56204ba56104b656004b855e22344e708824a3036245c280845b04c643904c443804c043709464360ca8425013c42402b041d020a4110000c00,
  0x50e569088456804fe56704fc56604fa56504f456404f056304ee56204ec56104e856004ea55e22344e708824a3280845b1ab445904f843904f643804f243709464360ca8425013e42402b041d020a4110000c00,
  0x159a71c504ad1c524a9005c871150a45514a4453148e447153c43421b842721b6426148c41f034841d0000c00,
  0x898d700348d7008983c0000c00, 0x182062b0015a2a19144a91218455120e4472198427219642603d641d0000c00,
  0x15a2a18204b019144a9155a4312198427219642603d641d0000c00, 0x4ca2c00f39dd020a4110000c00,
  0x159a71c505581c524a914a445327c844f11f044e153c43421b842721b6426034841d0000c00,
  0x159a71c504ae1c524a914a445327c844f11f044e153c43421b842721b6426148c41f034841d0000c00,
  0x1298d700848d7012983c0000c00, 0xf68d700898d700f683c0000c00,
  0x182062b0015a2a191e4a9121845513ee4472198427219642603d641d0000c00,
  0x15a2a18204b0191e4a915724312198427219642603d641d0000c00,
  0x182062b0015a2a19224a9121845513f04472198427219642603d641d0000c00,
  0x15a2a18204b019244a915784312198427219642603d641d0000c00, 0x1678d700f18d7016783c0000c00,
  0x1698d700f68d7016983c0000c00, 0x182062b0015a2a19404a9121845513fc4472198427219642603d641d0000c00,
  0x15a2a18204b019424a915904312198427219642603d641d0000c00,
  0x182062b0015a2a194e4a9121845514024472198427219642603d641d0000c00,
  0x15a2a18204b019504a915944312198427219642603d641d0000c00, 0x18e8d701448d7018e83c0000c00,
  0x15934001c8b4005d871005c8710015871035c43b0000c00,
  0x15934001d8b4005d871005c8710015871035c43b0000c00,
  0x78d700258590007859002584e04e643b002583b0000c00, 0x7930003a90e003a90d000790d044e43b0000c00,
  0x5185c5053e5690884568052e567052c566052a56505245640520563051e562051c561051a55e22344e708824a300d586d051846c00d586c280845b05284390526438052243709464360ca8425014442402b041d020a4110000c00,
  0x3d90900078fc003d8ec00078ec0000c00, 0x33a2d00328d7003385900328590000c00,
  0x5ba2d005a8d7005b859005a8590000c00, 0x1aa2d00198d7001a85900198590000c00, 0xb1a2e0000c00,
  0x125a2e0000c00, 0x162a2e0000c00, 0x7928003d91e000791e003d8df0000c00, 0xa190e00498e40000c00,
  0x10490e00498e40000c00, 0x3a90900078fc003a8ec00078ec0000c00, 0x9990900448fc00998ec00448ec0000c00,
  0x4de569088456804cc56704ca56604c856504c256404be56304bc56204ba56104b656004b855e22344e708824a3039645c280845b04c643904c443804c043709464360ca8425013c42402b041d020a4110000c00,
  0x50e569088456804fe56704fc56604fa56504f456404f056304ee56204ec56104e856004ea55e22344e708824a3280845b182445904f843904f643804f243709464360ca8425013e42402b041d020a4110000c00,
  0x4f8b6013a424020a4110000c00,
  0x47a5690884568046656704645660462565045c5640458563045656204545610450560045255e22344e708824a3280845b0460439045e438045a437094643600588280ca8425013a42402b041d020a4110000c00,
  0x47a5690884568046656704645660462565045c5640458563045656204545610450560045255e22344e708824a3280845b0460439045e438045a437094643600538280ca8425013a42402b041d020a4110000c00,
  0x47a5690884568046656704645660462565045c5640458563045656204545610450560045255e22344e708824a3280845b0460439045e438045a4370946436007c8280ca8425013a42402b041d020a4110000c00,
  0x47a5690884568046656704645660462565045c5640458563045656204545610450560045255e22344e708824a3280845b0460439045e438045a437094643600aa8280ca8425013a42402b041d020a4110000c00,
  0x47a5690884568046656704645660462565045c5640458563045656204545610450560045255e22344e708824a3280845b0460439045e438045a437094643600ab8280ca8425013a42402b041d020a4110000c00,
  0xaca2f04625650458563045255e22344e7280845b04604390ca8425013a42402b041d020a4110000c00,
  0xaca30046256522344e7280845b0ca8425013a42400ac82402b041d020a4110000c00,
  0xaca3104645660462565045c56404585630450560045255e22344e7280845b0460439045e438045a4370ca8425013a42402b041d020a4110000c00,
  0xaca3204645660462565045c564045856304545610450560045255e22344e7280845b0460439045e438045a4370ca8425013a42402b041d020a4110000c00,
  0xaca330462565045255e22344e7280845b04604390ca8425013a42400ac82402b041d020a4110000c00,
  0xaca340464566046256504585630450560045255e22344e7280845b04604390ca8425013a42402b041d020a4110000c00,
  0xaca350464566046256504585630450560045255e22344e7280845b0460439045a4370ca8425013a42402b041d020a4110000c00,
  0xaca3604645660462565045c56404585630450560045255e22344e7280845b0460439045a4370ca8425013a42402b041d020a4110000c00,
  0xaca370462565045255e22344e7280845b0ca8425013a42400ac82402b041d020a4110000c00,
  0xaca380884568046256522344e708824a3280845b09464360ca8425013a42400ac82402b041d020a4110000c00,
  0xaca39046256504585630450560045255e22344e7280845b04604390ca8425013a42402b041d020a4110000c00,
  0xaca3a04645660462565045c5640458563045656204545610450560045255e22344e7280845b0460439045e438045a4370ca8425013a42402b041d020a4110000c00,
  0x47a5690884568046656704645660462565045c5640458563045656204545610450560045255e22344e708824a3280845b0460439045e438045a437094643600b88280ca8425013a42402b041d020a4110000c00]

/-- The rows of actions 1856 to 1919. -/
def rows29 : Array Nat := #[
  0x47a5690884568046656704645660462565045c5640458563045656204545610450560045255e22344e708824a3280845b0460439045e438045a437094643600f78280ca8425013a42402b041d020a4110000c00,
  0x47a5690884568046656704645660462565045c5640458563045656204545610450560045255e22344e708824a3280845b0460439045e438045a437094643600f98280ca8425013a42402b041d020a4110000c00,
  0x47a5690884568046656704645660462565045c5640458563045656204545610450560045255e22344e708824a3280845b0460439045e438045a437094643600fe8280ca8425013a42402b041d020a4110000c00,
  0x47a5690884568046656704645660462565045c5640458563045656204545610450560045255e22344e708824a3280845b0460439045e438045a437094643600ff8280ca8425013a42402b041d020a4110000c00,
  0x47a5690884568046656704645660462565045c5640458563045656204545610450560045255e22344e708824a3280845b0460439045e438045a437094643601638280ca8425013a42402b041d020a4110000c00,
  0x4de569088456804cc56704ca56604c856504c256404be56304bc56204ba56104b656004b855e22344e708824a3041045c280845b04c643904c443804c043709464360ca8425013c42402b041d020a4110000c00,
  0x1ea3b22344e7280845b0ca8425013a424001e82402b041d020a4110000c00,
  0x29a3c088456822344e708824a3280845b09464360ca8425013a424002982402b041d020a4110000c00,
  0x47a5690884568046656704645660462565045c5640458563045656204545610450560045255e22344e708824a3280845b0460439045e438045a4370946436002f8280ca8425013a42402b041d020a4110000c00,
  0x3fa3d22344e7280845b013a424003f82402b041d020a4110000c00,
  0x4de569088456804cc56704ca56604c856504c256404be56304bc56204ba56104b656004b855e22344e708824a3047045c280845b04c643904c443804c043709464360ca8425013c42402b041d020a4110000c00,
  0x4de569088456804cc56704ca56604c856504c256404be56304bc56204ba56104b656004b855e22344e708824a304a245c280845b04c643904c443804c043709464360ca8425013c42402b041d020a4110000c00,
  0x4de569088456804cc56704ca56604c856504c256404be56304bc56204ba56104b656004b855e22344e708824a304d445c280845b04c643904c443804c043709464360ca8425013c42402b041d020a4110000c00,
  0x4de569088456804cc56704ca56604c856504c256404be56304bc56204ba56104b656004b855e22344e708824a3050645c280845b04c643904c443804c043709464360ca8425013c42402b041d020a4110000c00,
  0x4de569088456804cc56704ca56604c856504c256404be56304bc56204ba56104b656004b855e22344e708824a3053645c280845b04c643904c443804c043709464360ca8425013c42402b041d020a4110000c00,
  0x78b503b843b0000c00,
  0x4de569088456804cc56704ca56604c856504c256404be56304bc56204ba56104b656004b855e22344e708824a303e045c280845b04c643904c443804c043709464360ca8425013c42402b041d020a4110000c00,
  0x4de569088456804cc56704ca56604c856504c256404be56304bc56204ba56104b656004b855e22344e708824a3044445c280845b04c643904c443804c043709464360ca8425013c42402b041d020a4110000c00,
  0x47a5690884568046656704645660462565045c5640458563045656204545610450560045255e22344e708824a326dc45b0460439045e438045a4370a2c4360ca8425013a424027e41d02064110000c00,
  0x159a71c504b01c524a9005d871005c871035c43b21b842721b6426034841d0000c00,
  0x159a7001c8b40e6c44f0bb844e035c43b0000c00, 0x159a7001d8b40e6c44f0bb844e035c43b0000c00,
  0x159a71c505581c524a9005c87114a4453153c43421b842721b6426034841d0000c00,
  0x159a71c504ae1c524a9005c87114a4453153c43421b842721b6426148c41f034841d0000c00,
  0x159a71c504b01c524a927c844f11f044e21b842721b6426034841d0000c00,
  0x15a2a18204b0192e4a92198427219642603d641d0000c00,
  0x15a2a18204b019364a92198427219642603d641d0000c00,
  0x15a2a18204b019384a92198427219642603d641d0000c00,
  0x15a2a18204b0193e4a92198427219642603d641d0000c00,
  0x15a2a18204b0194a4a92198427219642603d641d0000c00,
  0x15a2a18204b019584a92198427219642603d641d0000c00,
  0x15a2a18204b0195a4a92198427219642603d641d0000c00,
  0x15a2a18204b0195c4a92198427219642603d641d0000c00,
  0x15a2a18204b0195e4a92198427219642603d641d0000c00,
  0x15a2a18204b019644a92198427219642603d641d0000c00,
  0x15a2a18204b019664a92198427219642603d641d0000c00,
  0x15a2a18204b019684a92198427219642603d641d0000c00,
  0x15a2a18204b0196e4a92198427219642603d641d0000c00,
  0x15a2a18204b019704a92198427219642603d641d0000c00,
  0x15a2a18204b019724a92198427219642603d641d0000c00,
  0x15a2a18204b019744a92198427219642603d641d0000c00, 0x159a7001c8b40d3844f0bb844e035c43b0000c00,
  0x159a7001d8b40d3844f0bb844e035c43b0000c00, 0x159a7001c8b40d0a44f0bb844e035c43b0000c00,
  0x159a7001d8b40d0a44f0bb844e035c43b0000c00, 0x159a7001c8b40e0244f0bb844e035c43b0000c00,
  0x159a7001d8b40e0244f0bb844e035c43b0000c00, 0x159a7001c8b4124c44f0bb844e035c43b0000c00,
  0x159a7001d8b4124c44f0bb844e035c43b0000c00, 0xce4590008d8f30000c00,
  0x159a7001c8b4137844f0bb844e035c43b0000c00, 0x159a7001d8b4137844f0bb844e035c43b0000c00,
  0x47a5690884568046656704645660462565045c5640458563045656204545610450560045255e22344e708824a3280845b0460439045e438045a43709464360ca8425013a42402b041d020a4110000c00,
  0x78f4029046d029046c000786c044e43b0000c00, 0x78f204b443b0000c00, 0x78e404e643b0000c00,
  0x78f3051643b0000c00, 0x78d7035643b0000c00, 0x82a3e147a494147b41200828120000c00,
  0x159a71c504b01c524a9005c87121b842721b6426034841d0000c00, 0xeea3e1480494148341200ee8120000c00,
  0x45a3f2a0e45b07c0424020e4110000c00, 0xcda400000c00, 0x130a400000c00]

/-- The rows of actions 1920 to 1983. -/
def rows30 : Array Nat := #[
  0x16ea400000c00, 0x190a400000c00, 0x1a7a400000c00, 0x1b3a400000c00, 0x1bba400000c00,
  0x1c0a400000c00, 0x60a4114864940000c00, 0x18a4114844940000c00, 0x60a400000c00,
  0x18a4114564940000c00, 0xcea400000c00, 0x78d7039243b0000c00, 0xd9f81c3a4280000c00,
  0x60a41145a4940000c00, 0x78d7040c43b0000c00, 0x78d7046c43b0000c00, 0x78d704a043b0000c00,
  0x78d704d243b0000c00, 0x78d7050443b0000c00, 0x78d7053443b0000c00, 0x78d703da43b0000c00,
  0x78d7044043b0000c00, 0x159a7001c8b4005d871005c871035c43b0000c00,
  0x159a7001d8b4005d871005c871035c43b0000c00,
  0x15a421c504ad1c684a9150a45514a64531494447154443421b842721b6426149241f034841d0000c00,
  0xeca410000c00, 0xeea410000c00, 0x159a7001c8b427c844f11f044e0000c00,
  0x159a7001d8b427c844f11f044e0000c00, 0x142a410000c00, 0x60a410000c00, 0xcea410000c00,
  0x4ca2c02064110000c00, 0x15a421c504b01c684a9028444021b842721b6426034841d0000c00,
  0x15a421c505581c684a914a6453154443421b842721b6426034841d0000c00,
  0x15a421c504ae1c684a914a6453154443421b842721b6426149241f034841d0000c00,
  0x1820643154853316d64a9121845512224530e904520e92447154643414ec4310dd242f21984272196426107241f03d641d0000c00,
  0x15a421c505581c884a914ae453155443421b842721b6426034841d0000c00,
  0x15a421c504ae1c884a914ae453155443421b842721b6426149c41f034841d0000c00,
  0x159a7001c8b4005c8710000c00, 0x159a7001d8b4005c8710000c00,
  0x1820643156853316e84a9121845512164530ea04520ea244715aa43415664310de242f21984272196426110241f03d641d0000c00,
  0x15a421c505581c9a4a914b8453156c43421b842721b6426034841d0000c00,
  0x15a421c504ae1c9a4a914b8453156c43421b842721b642614a041f034841d0000c00,
  0x15a421c505581ca84a914c0453158a43421b842721b6426034841d0000c00, 0x11ea440000c00,
  0x15a421c504b01c684a921b842721b6426034841d0000c00,
  0x15a421c504b01c884a921b842721b6426034841d0000c00,
  0x15a421c504b01c8e4a921b842721b6426034841d0000c00,
  0x182058b155a53319144a912184551352452135444715584312198427219642603d641d0000c00,
  0x15a421c504b01c964a921b842721b6426034841d0000c00,
  0x15a421c504b01c9a4a921b842721b6426034841d0000c00,
  0x15a421c504b01ca04a921b842721b6426034841d0000c00,
  0x15a421c504b01ca24a921b842721b6426034841d0000c00,
  0x182058b157c533192a4a9121845513604521362447157a4312198427219642603d641d0000c00,
  0x15a421c504b01ca44a921b842721b6426034841d0000c00,
  0x15a421c504b01ca84a921b842721b6426034841d0000c00,
  0x15a421c504b01cae4a921b842721b6426034841d0000c00,
  0x15a421c504b01cb04a921b842721b6426034841d0000c00,
  0x15a421c504b01cb24a921b842721b6426034841d0000c00,
  0x15a421c504b01cb44a921b842721b6426034841d0000c00,
  0x15a421c504b01cba4a921b842721b6426034841d0000c00,
  0x15a421c504b01cbc4a921b842721b6426034841d0000c00,
  0x15a421c504b01cc24a921b842721b6426034841d0000c00]

/-- The rows of actions 1984 to 2047. -/
def rows31 : Array Nat := #[
  0x15a421c504b01cc44a921b842721b6426034841d0000c00, 0x519a9206f42d005182d0000c00,
  0x15a421c504b01cfe4a921b842721b6426034841d0000c00,
  0x15a421c504b01d0a4a921b842721b6426034841d0000c00,
  0x15a421c504b01d0c4a921b842721b6426034841d0000c00,
  0x15a421c504b01d0e4a921b842721b6426034841d0000c00,
  0x15a421c504b01d124a921b842721b6426034841d0000c00,
  0x15a421c504b01d484a921b842721b6426034841d0000c00,
  0x15a421c504b01d4c4a921b842721b6426034841d0000c00,
  0x15a421c504b01d4e4a921b842721b6426034841d0000c00,
  0x15a421c504b01d504a921b842721b6426034841d0000c00,
  0x15a421c504b01d524a921b842721b6426034841d0000c00,
  0x26d84ab2908433290643229044311a7e43014e042f1d6042d26be420291641f291441e1a1040d1a6c40c1a6640b29124091c4040629404050000c00,
  0x1c506451c524a9150a45514a44531476452148e447153c43421b842721b6426148c41f034841d0000c00,
  0x1684a62908433290643229044311c4243014e042f1d6042d26be420291641f291441e1a1040d1a6c40c1a6640b29124091c4040629404050000c00,
  0x182064616d84a9121845512024531200447154c4342198427219642603d641d0000c00,
  0x182064517284a9121845512244530e98452108a447155243421984272196426108841f03d641d0000c00,
  0x1c504b01dc24a906b844f21b842721b6426034841d0000c00,
  0x182064616e24a91218455122a453120e447155c4342198427219642603d641d0000c00,
  0x182064517324a91218455126c4530ea845210c6447159e4342198427219642611d041f03d641d0000c00,
  0x1c504b021684a9070844f21b842721b6426034841d0000c00,
  0x1c504b021684a9070c44f21b842721b6426034841d0000c00,
  0x1c504b021684a9072244f21b842721b6426034841d0000c00,
  0x1c504b021684a9072444f21b842721b6426034841d0000c00,
  0x28044ab2aae4332aac4322b2e4311bd643014f842f1d6042d28ec4202b7e41f2ab041e1a5a40d1c0e40c1c0c40b2b7c4091ce84062b444050000c00,
  0x16c4a62908433290643229044311c4243014e042f1d6042d26be420291641f291441e1a1040d1a6c40c1a6640b29124091c4040629404050000c00,
  0x1c504b020864a9201444f21b842721b6426034841d0000c00,
  0x1c504b021684a9204e44f21b842721b6426034841d0000c00,
  0x1c504b021684a9205244f21b842721b6426034841d0000c00,
  0x1c504b021684a9206044f21b842721b6426034841d0000c00,
  0x1c504b021684a9206244f21b842721b6426034841d0000c00,
  0x1724a62aae4332aac4322b2e4311cea43014f842f1d6042d28ec4202b7e41f2ab041e1a5a40d1c0e40c1c0c40b2b7c4091ce84062b444050000c00,
  0x1c506471c524a914a4453148e447153c43421b842721b6426148c41f034841d0000c00, 0x15a42001d8b40000c00,
  0x1c506471c684a914a64531494447154443421b842721b6426149241f034841d0000c00,
  0x182064716d64a912224531074447154643421984272196426107241f03d641d0000c00,
  0x182064717284a91224453108a447155243421984272196426108841f03d641d0000c00,
  0x1c506471c884a914ae453149e447155443421b842721b6426149c41f034841d0000c00,
  0x182064716e04a9122845310b844715564342198427219642610b641f03d641d0000c00,
  0x1c505581c904a914b2453155c43421b842721b6426034841d0000c00,
  0x182064716ea4a9121645310bc44715aa43421984272196426110241f03d641d0000c00,
  0x182064717304a9122c45310c2447156a4342198427219642610c041f03d641d0000c00,
  0x182064717324a9126c45310c6447159e4342198427219642611d041f03d641d0000c00,
  0x182064716ec4a9123045310de447156e4342198427219642610dc41f03d641d0000c00,
  0x1c505581ca24a914bc453157443421b842721b6426034841d0000c00,
  0x182064716f04a9121e45310e044715ac43421984272196426110c41f03d641d0000c00,
  0x182064716f64a9121e45310e444715ac43421984272196426110c41f03d641d0000c00,
  0x1820647173c4a9123245310e844715884342198427219642610e641f03d641d0000c00,
  0x1820647173e4a9126e45310ea44715a04342198427219642611d441f03d641d0000c00,
  0x182064717004a9122645310fa44715ae43421984272196426111841f03d641d0000c00,
  0x182064717424a9127045310fe44715a24342198427219642611da41f03d641d0000c00,
  0x1c504b021684a921b842721b6426034841d0000c00, 0xfa3f0000c00, 0x45a3f0000c00, 0xada3f0000c00,
  0x11da3f0000c00, 0x11fa3f0000c00, 0x1c504b01c524a921b842721b6426034841d0000c00,
  0x1c504b01c684a921b842721b6426034841d0000c00, 0x1c504b01c764a921b842721b6426034841d0000c00,
  0x18204b019104a92198427219642603d641d0000c00, 0x1c504b01c7a4a921b842721b6426034841d0000c00,
  0x1c504b01c884a921b842721b6426034841d0000c00, 0x1c504b01c8e4a921b842721b6426034841d0000c00]

/-- The rows of actions 2048 to 2111. -/
def rows32 : Array Nat := #[
  0x18204b019144a92198427219642603d641d0000c00,
  0x182064819144a9120e4472198427219642603d641d0000c00,
  0x1c504b01c904a921b842721b6426034841d0000c00,
  0x182064819184a913ec4472198427219642603d641d0000c00,
  0x18204b0191a4a92198427219642603d641d0000c00, 0x1c504b01c964a921b842721b6426034841d0000c00,
  0x1c504b01c9a4a921b842721b6426034841d0000c00, 0x1c504b01ca04a921b842721b6426034841d0000c00,
  0x1820648191e4a913ee4472198427219642603d641d0000c00,
  0x18204b0191e4a92198427219642603d641d0000c00, 0x1c504b01ca24a921b842721b6426034841d0000c00,
  0x18204b019204a92198427219642603d641d0000c00,
  0x182064819264a913f24472198427219642603d641d0000c00,
  0x18204b019284a92198427219642603d641d0000c00,
  0x1820648192c4a913f44472198427219642603d641d0000c00,
  0x182064819324a913f64472198427219642603d641d0000c00,
  0x18204b019344a92198427219642603d641d0000c00, 0x1c504b01ca44a921b842721b6426034841d0000c00,
  0x1c504b01ca84a921b842721b6426034841d0000c00, 0x1c504b01cae4a921b842721b6426034841d0000c00,
  0x182064819364a913f84472198427219642603d641d0000c00,
  0x18204b019364a92198427219642603d641d0000c00, 0x1c504b01cb04a921b842721b6426034841d0000c00,
  0x1820648193a4a913fa4472198427219642603d641d0000c00,
  0x18204b0193c4a92198427219642603d641d0000c00,
  0x182064819444a913fe4472198427219642603d641d0000c00,
  0x18204b019464a92198427219642603d641d0000c00,
  0x182064819484a914004472198427219642603d641d0000c00,
  0x18204b0194c4a92198427219642603d641d0000c00,
  0x182064819524a914044472198427219642603d641d0000c00,
  0x18204b019544a92198427219642603d641d0000c00,
  0x182064819564a914064472198427219642603d641d0000c00,
  0x1c504b01cb24a921b842721b6426034841d0000c00, 0x1c504b01cb44a921b842721b6426034841d0000c00,
  0x1c504b01cba4a921b842721b6426034841d0000c00,
  0x182064819604a914084472198427219642603d641d0000c00,
  0x18204b019624a92198427219642603d641d0000c00,
  0x1820648196a4a9140a4472198427219642603d641d0000c00,
  0x18204b0196c4a92198427219642603d641d0000c00, 0x1c504b01cbc4a921b842721b6426034841d0000c00,
  0x1c504b01cc24a921b842721b6426034841d0000c00, 0x1c504b01cc44a921b842721b6426034841d0000c00,
  0x1c504b01cf44a921b842721b6426034841d0000c00, 0x1c504b01cfe4a921b842721b6426034841d0000c00,
  0x1c504b01d0a4a921b842721b6426034841d0000c00, 0x1c504b01d0c4a921b842721b6426034841d0000c00,
  0x1c504b01d0e4a921b842721b6426034841d0000c00, 0x1c504b01d124a921b842721b6426034841d0000c00,
  0x1c504b01d3e4a921b842721b6426034841d0000c00, 0x1c504b01d484a921b842721b6426034841d0000c00,
  0x1c504b01d4c4a921b842721b6426034841d0000c00, 0x1c504b01d4e4a921b842721b6426034841d0000c00,
  0x1c504b01d504a921b842721b6426034841d0000c00, 0x1c504b01d524a921b842721b6426034841d0000c00,
  0x29c04b727d042a0000c00, 0x91a4922a04e7275445b07c0424020c4110000c00,
  0x91a4922a24e7275645b07c0424020c4110000c00, 0x91a4922a44e7275845b07c0424020c4110000c00,
  0x14fa4a0000c00, 0x150a4a0000c00, 0x1a1a4a0000c00,
  0x4a4b291c45b17a043f291a434221a42a21984272196426179e40716cc4050000c00,
  0x3ba49297045b07c04240000c00, 0x91a4c22a04e7275445b0000c00]

/-- The rows of actions 2112 to 2175. -/
def rows33 : Array Nat := #[
  0x91a4c22a64e7275a45b0000c00, 0x3ba4d07de53b297045b07c04240000c00, 0x104a4e0000c00,
  0x110a4f00c285b0000c00, 0x112a500000c00, 0x113a500000c00, 0x110a4f00c385b0000c00, 0x40a510000c00,
  0x91a5226504e7288c45b08a442402104110000c00, 0x91a5226524e7288e45b08a442402104110000c00,
  0x91a5226544e7289045b08a442402104110000c00, 0xa5a510000c00, 0x39a530000c00,
  0x38a4907c04240000c00, 0x3ea4d271645b020c4110000c00, 0x3ea4c271845b0000c00, 0xa0a530000c00,
  0xa1a540000c00, 0x34443a0000c00, 0x37a4c0000c00, 0x3aa4c0000c00, 0x3da4c0000c00, 0x3ea4c0000c00,
  0x3ea55078e41d0000c00, 0x38a4c0000c00, 0x91a4c0000c00, 0x93a4c0000c00, 0x95a4c0000c00,
  0x97a4c0000c00, 0x99a4c0000c00, 0x9aa4c0000c00, 0x9da56003e951078e41d0000c00,
  0x9fa55078e41d0000c00, 0xa2a4c0000c00, 0x105a4c0000c00, 0x107a4c0000c00, 0x10ba4c0000c00,
  0x10ca4c0000c00, 0x114a4c0000c00, 0x117a4c0000c00, 0x119a4c0000c00, 0x128a4c0000c00,
  0x161648329c4450293a44b21b842721b64260000c00, 0x161648329c6450293a44b21b842721b64260000c00,
  0x161648329cc450293a44b21b842721b64260000c00, 0x161648329d2450293a44b21b842721b64260000c00,
  0x153a4c0000c00, 0x155a4c0000c00, 0x159a4c0000c00, 0x15aa4c0000c00, 0x186a4c0000c00,
  0x187a4c0000c00, 0x1a2a4c0000c00, 0x3ba52089a53b2a3045b08a44240000c00, 0x14fa570000c00,
  0x150a570000c00, 0x1a1a570000c00, 0x91a5826784e728b245b08a842402124110000c00,
  0x91a58267a4e728b445b08a842402124110000c00, 0x91a58267c4e728b645b08a842402124110000c00,
  0x38c43a0000c00, 0x40643a0000c00, 0x16164832a3e450293a44b21b842721b64260000c00,
  0x16164832a40450293a44b21b842721b64260000c00]

/-- The rows of actions 2176 to 2239. -/
def rows34 : Array Nat := #[
  0x16164832a46450293a44b21b842721b64260000c00, 0x16164832a4c450293a44b21b842721b64260000c00,
  0x46843a0000c00, 0x49c43a0000c00, 0x16164832a92450293a44b21b842721b64260000c00,
  0x16164832a94450293a44b21b842721b64260000c00, 0x16164832a9a450293a44b21b842721b64260000c00,
  0x16164832aa0450293a44b21b842721b64260000c00, 0x4ce43a0000c00, 0x50043a0000c00, 0x53043a0000c00,
  0x3d443a0000c00, 0x43c43a0000c00, 0x1fa59291a434224e42a21984272196426179e407224c4050000c00,
  0x839df07c845c17a643d035043b1aa6436222842401964110000c00, 0x3da4d07de53b0000c00,
  0x16de65a1616483293a44b0000c00, 0x38a4d07e053b0000c00,
  0xed9df07c845c17aa43d035043b1abc436222842401964110000c00,
  0xed9df07c845c17ac43d035043b1abc436222842401984110000c00,
  0xed9df07c845c17ae43d035043b1abe436222842401904110000c00,
  0x15a5b0e0244f001584f0bb844e001584e035c43b222842401984110000c00, 0x128a4d07de53b0000c00,
  0x1409df07c845c17b843d035043b1ac6436222842401964110000c00,
  0x1409df07c845c17ba43d035043b1ac6436222842401984110000c00,
  0x1409df07c845c17bc43d035043b1ac8436222842401904110000c00,
  0x1409df07c845c17be43d035043b1aca436222842401904110000c00,
  0x1409df07c845c17c043d035043b1ad8436222842401904110000c00,
  0x1409df07c845c17c243d035043b1ada436222842401904110000c00,
  0x17c9df07c845c17c843d035043b1ade436222842401964110000c00,
  0x17c9df07c845c17ca43d035043b1ae0436222842401904110000c00,
  0x17c9df07c845c17cc43d035043b1ae2436222842401904110000c00,
  0x17c9df07c845c17ce43d035043b1b04436222842401904110000c00,
  0x17c9df07c845c17d043d035043b1b06436222842401904110000c00,
  0x17c9df07c845c17d243d035043b1b14436222842401904110000c00,
  0x17c9df07c845c17d443d035043b1b16436222842401904110000c00,
  0x19a9df07c845c17da43d035043b1b18436222842401964110000c00,
  0x19a9df07c845c17dc43d035043b1b1a436222842401904110000c00,
  0x19a9df07c845c17de43d035043b1b44436222842401904110000c00,
  0x19a9df07c845c17e043d035043b1b46436222842401904110000c00,
  0x19a9df07c845c17e243d035043b1b64436222842401904110000c00,
  0x1af9df07c845c17e843d035043b1b80436222842401904110000c00,
  0x15a5b0e6c44f001584f0bb844e001584e035c43b222842401984110000c00, 0x3ea52288445b02104110000c00,
  0x3ba522a3045b08a44240000c00, 0x18ce65a1616483293a44b0000c00,
  0x15a5b0d0a44f001584f0bb844e001584e035c43b222842401984110000c00, 0x17fa65a1616483293a44b0000c00,
  0x15a5b0d3844f001584f0bb844e001584e035c43b222842401984110000c00, 0xe0c65a1616483293a44b0000c00,
  0x15a5b126044f001584f0bb844e001584e035c43b222842401984110000c00, 0xbd665a1616483293a44b0000c00,
  0x1bea65a1616483293a44b0000c00, 0x1a6065a1616483293a44b0000c00,
  0x3ca5c003ba5c003b8ec07ce4df003b8df07ce45c297045b07cc43b07c04240000c00,
  0x909e307c845c17a843d222842401984110000c00, 0x96a5d07d04370000c00,
  0x9ca5e07d44df07d243807d04370000c00, 0x9ea5f07dc4df0000c00,
  0x1029e307c845c17b043d222842401984110000c00, 0x909e3011445c17b443d222842401984110000c00,
  0x114a5e07d44df07d243807d04370000c00, 0x118a5d07d04370000c00,
  0x14d9e307c845c17c443d222842401984110000c00]

/-- The rows of actions 2240 to 2303. -/
def rows35 : Array Nat := #[
  0x1029e307c845c17c643d222842401984110000c00, 0x157a5e07d44df07d243807d04370000c00,
  0x15aa5e07d44df07d243807d04370000c00, 0x165a5e07d44df07d243807d04370000c00,
  0x166a5e07d44df07d243807d04370000c00, 0x1849e307c845c17d643d222842401984110000c00,
  0x14d9e307c845c17d843d222842401984110000c00, 0x19f9e307c845c17e443d222842401984110000c00,
  0x1849e307c845c17e643d222842401984110000c00, 0x19f9e307c845c17ea43d222842401984110000c00,
  0x1b2a5e07d44df07d243807d04370000c00, 0x3ba58081853b2aa645b08a84240000c00,
  0xb9a60003e951288445b02104110000c00, 0x38a5208a44240000c00, 0x91a5226504e7288c45b0000c00,
  0x91a5226564e7289245b0000c00, 0x104a610000c00, 0x110a6200c285b0000c00, 0x112a630000c00,
  0x113a630000c00, 0x110a6200c385b0000c00, 0xb1a610000c00, 0x125a610000c00, 0x162a610000c00,
  0x14fa640000c00, 0x150a640000c00, 0x1a1a640000c00,
  0x295e4a6295c44f295a44e1a1643f225042a21c842721c642618184050000c00,
  0x291a434224e42a21984272196426179e407224c4050000c00,
  0x3b915080e45c297045b276243d003b83d07c04240000c00, 0xb9a65003e951271645b020c4110000c00,
  0xed9df07c845c035043b222842401964110000c00, 0x1029e307c845c222842401984110000c00,
  0x1409df07c845c035043b222842401964110000c00, 0x1409df07c845c035043b222842401984110000c00,
  0x1409df07c845c035043b222842401904110000c00, 0x14d9e307c845c222842401984110000c00,
  0x15a5b005d871005c8710015871035c43b222842401984110000c00, 0x105a66020a4110000c00,
  0x17c9df07c845c035043b222842401964110000c00, 0x17c9df07c845c035043b222842401984110000c00,
  0x17c9df07c845c035043b222842401904110000c00, 0x1849e307c845c222842401984110000c00,
  0x19a9df07c845c035043b222842401964110000c00, 0x19a9df07c845c035043b222842401904110000c00,
  0x19f9e307c845c222842401984110000c00, 0x1af9df07c845c035043b222842401964110000c00,
  0x1af9df07c845c035043b222842401904110000c00, 0x1b19e307c845c222842401984110000c00,
  0x1b69df07c845c035043b222842401904110000c00, 0x39a670000c00, 0x3ea52288645b0000c00,
  0xa0a670000c00, 0xa1a680000c00, 0x3da52089a53b0000c00, 0x38a52089c53b0000c00,
  0x128a52089a53b0000c00, 0xa3a690000c00, 0x115a690000c00, 0x158a690000c00,
  0x3ea5828ae45b02124110000c00, 0x3ba582aa645b08a84240000c00,
  0x159340e0244f001584f0bb844e001584e035c43b0000c00,
  0x159340e6c44f001584f0bb844e001584e035c43b0000c00]

/-- The rows of actions 2304 to 2367. -/
def rows36 : Array Nat := #[
  0x159340d0a44f001584f0bb844e001584e035c43b0000c00,
  0x159340d3844f001584f0bb844e001584e035c43b0000c00,
  0x15934126044f001584f0bb844e001584e035c43b0000c00, 0x91a6a22a04e7275445b08a642402144110000c00,
  0x91a6a22a24e7275645b08a642402144110000c00, 0x91a6a22a44e7275845b08a642402144110000c00,
  0x1c4e66c223e66b223a44f294844e21c842721c64260000c00,
  0x298a4a622884a3001f871225042a21c842721c642622864050000c00, 0x15a6d222842401984110000c00,
  0x295e4a629a444f1a1643f225042a21c842721c642618184050000c00,
  0x295e4a629b444f1a1643f225042a21c842721c642618184050000c00, 0x159a80000c00,
  0xb9a60003e951288645b0000c00, 0xc79a80000c00, 0x105898020a4110000c00, 0x37a520000c00,
  0x3aa520000c00, 0x3da520000c00, 0x3ea520000c00, 0x3ea6e07a041d0000c00, 0x38a520000c00,
  0x8ea520000c00, 0x91a520000c00, 0x93a520000c00, 0x95a520000c00, 0x96a6f082e4370000c00,
  0x97a520000c00, 0x99a520000c00, 0x9aa520000c00, 0x9ca7008dc4df0830438082e4370000c00,
  0x9da60003e95107a041d0000c00, 0x9ea7108344df0000c00, 0x9fa6e07a041d0000c00, 0xa2a520000c00,
  0xb9a72003e95128ae45b02124110000c00, 0x103a520000c00, 0x105a520000c00, 0x107a520000c00,
  0x10ba520000c00, 0x10ca520000c00, 0x114a520000c00, 0x114a7008dc4df0830438082e4370000c00,
  0x117a520000c00, 0x118a6f082e4370000c00, 0x119a520000c00, 0x128a520000c00, 0x14ba520000c00,
  0x153a520000c00, 0x155a520000c00, 0x157a7008dc4df0830438082e4370000c00, 0x159a520000c00,
  0x15aa520000c00, 0x15aa7008dc4df0830438082e4370000c00, 0x165a7008dc4df0830438082e4370000c00,
  0x166a7008dc4df0830438082e4370000c00, 0x182a520000c00, 0x186a520000c00, 0x187a520000c00,
  0x19ea520000c00, 0x1a2a520000c00, 0x1b2a7008dc4df0830438082e4370000c00, 0x38a5808a84240000c00,
  0x91a5826784e728b245b0000c00, 0x91a58267e4e728b845b0000c00]

/-- The rows of actions 2368 to 2431. -/
def rows37 : Array Nat := #[
  0xb1a730000c00, 0x104a730000c00, 0x110a7400c285b0000c00, 0x112a750000c00, 0x113a750000c00,
  0x110a7400c385b0000c00, 0x125a730000c00, 0x162a730000c00, 0x8b653b003b8fe297045b07c04240000c00,
  0x7b467602784df18ee42a22284240b7a4070000c00, 0x7b467602784df18f642a22284240b7a4070000c00,
  0x7b467602784df18fe42a22284240b7a4070000c00, 0x7b467602784df190642a22284240b7a4070000c00,
  0x7b467602784df190c42a22284240b844070000c00, 0xb9a65003e951271845b0000c00,
  0x1c4e66c223e66b22b244f21c842721c64260000c00, 0x29667700229df07c845c039e43b26f84360000c00,
  0x296677002292d2798494002289407c845c035043b26f84360000c00,
  0x1c4e66c223e66b22da44f21c842721c64260000c00,
  0x295e4a61a1643f225042a21c842721c642618184050000c00, 0x15934005d871005c8710015871035c43b0000c00,
  0x3da58081853b0000c00, 0xb9a6008dc4df0830438082e4370000c00, 0x38a58081a53b0000c00,
  0x128a58081853b0000c00, 0x10a78078445c0000c00, 0x4ea78078445c0000c00, 0x39a790000c00,
  0x3ea5828b045b0000c00, 0xa0a790000c00, 0xa1a7a0000c00,
  0x7b467602784df19fc42a22284240b844070000c00, 0x7b467602784df1a0642a22284240b844070000c00,
  0x3ba6a088e53b297045b08a64240000c00, 0x7b467602784df19f842a22284240b7a4070000c00,
  0x3e8fe271645b020e4110000c00, 0x7b467602784df1a0242a22284240b7a4070000c00,
  0x7b467602784df1a0a42a22284240b7a4070000c00, 0x7b467602784df1a0c42a22284240b7a4070000c00,
  0x7b467602784df22284240b8a4070000c00, 0x7b467602784df22284240b904070000c00, 0x64a7b0000c00,
  0x159a70e6c44f0bb844e035c43b0000c00, 0x7b467602784df22284240b7a4070000c00, 0x80a7b0000c00,
  0x7b467602784df22284240b964070000c00, 0xb9a6507d44df07d243807d04370000c00, 0xc6a7b0000c00,
  0xc8a7b0000c00, 0x29667700229df07c845c039e43b0000c00,
  0x296677002292d2798494002289407c845c035043b0000c00, 0x7b467602784df22284240b844070000c00,
  0xeaa7b0000c00, 0x1abc67c00ed9df07c845c035043b0000c00, 0x1ac667c01409df07c845c035043b0000c00,
  0x1409df07c845c1ace43d035043b1acc4360000c00, 0x1409df07c845c1ad243d035043b1ad04360000c00,
  0x1409df07c845c1ad643d035043b1ad44360000c00, 0x1c4e66c223e66b21c842721c64260000c00,
  0x1ade67c017c9df07c845c035043b0000c00, 0x17c9df07c845c1ae643d035043b1ae44360000c00,
  0x17c9df07c845c1aea43d035043b1ae84360000c00, 0x17c9df07c845c1aee43d035043b1aec4360000c00,
  0x17c9df07c845c1af243d035043b1af04360000c00]

/-- The rows of actions 2432 to 2495. -/
def rows38 : Array Nat := #[
  0x17c9df07c845c1af643d035043b1af44360000c00, 0x17c9df07c845c1afa43d035043b1af84360000c00,
  0x17c9df07c845c1afe43d035043b1afc4360000c00, 0x17c9df07c845c1b0243d035043b1b004360000c00,
  0x17c9df07c845c1b0a43d035043b1b084360000c00, 0x17c9df07c845c1b0e43d035043b1b0c4360000c00,
  0x17c9df07c845c1b1243d035043b1b104360000c00, 0x1b1867c019a9df07c845c035043b0000c00,
  0x19a9df07c845c1b1e43d035043b1b1c4360000c00, 0x19a9df07c845c1b2243d035043b1b204360000c00,
  0x19a9df07c845c1b2643d035043b1b244360000c00, 0x19a9df07c845c1b2a43d035043b1b284360000c00,
  0x19a9df07c845c1b2e43d035043b1b2c4360000c00, 0x19a9df07c845c1b3243d035043b1b304360000c00,
  0x19a9df07c845c1b3643d035043b1b344360000c00, 0x19a9df07c845c1b3a43d035043b1b384360000c00,
  0x19a9df07c845c1b3e43d035043b1b3c4360000c00, 0x19a9df07c845c1b4243d035043b1b404360000c00,
  0x19a9df07c845c1b4a43d035043b1b484360000c00, 0x19a9df07c845c1b4e43d035043b1b4c4360000c00,
  0x19a9df07c845c1b5243d035043b1b504360000c00, 0x19a9df07c845c1b5643d035043b1b544360000c00,
  0x19a9df07c845c1b5a43d035043b1b584360000c00, 0x19a9df07c845c1b5e43d035043b1b5c4360000c00,
  0x19a9df07c845c1b6243d035043b1b604360000c00, 0x1b6667c01af9df07c845c035043b0000c00,
  0x1af9df07c845c1b6a43d035043b1b684360000c00, 0x1af9df07c845c1b6e43d035043b1b6c4360000c00,
  0x1af9df07c845c1b7243d035043b1b704360000c00, 0x1af9df07c845c1b7643d035043b1b744360000c00,
  0x1af9df07c845c1b7a43d035043b1b784360000c00, 0x1af9df07c845c1b7e43d035043b1b7c4360000c00,
  0x1af9df07c845c1b8443d035043b1b824360000c00, 0x1af9df07c845c1b8843d035043b1b864360000c00,
  0x1af9df07c845c1b8c43d035043b1b8a4360000c00, 0x1af9df07c845c1b9043d035043b1b8e4360000c00,
  0x1af9df07c845c1b9443d035043b1b924360000c00, 0x1b69df07c845c1b9843d035043b1b964360000c00,
  0x1b69df07c845c1b9c43d035043b1b9a4360000c00, 0x10a72076a45c0000c00, 0x4ea72076a45c0000c00,
  0x159a70d3844f0bb844e035c43b0000c00, 0x128a580000c00, 0x165a7d08e04df086843808664370000c00,
  0x166a7d08e04df086843808664370000c00, 0x159a70d0a44f0bb844e035c43b0000c00,
  0xb9a72003e95128b045b0000c00, 0x159a70e0244f0bb844e035c43b0000c00, 0x37a580000c00,
  0x3aa580000c00, 0x3da580000c00, 0x3ea580000c00, 0x3ea7e07ac41d0000c00, 0x38a580000c00,
  0x159a7124c44f0bb844e035c43b0000c00, 0x8ea580000c00, 0x91a580000c00, 0x93a580000c00,
  0x95a580000c00, 0x96a7f08664370000c00, 0x97a580000c00, 0x99a580000c00, 0x9aa580000c00,
  0x9ca7d08e04df086843808664370000c00]

/-- The rows of actions 2496 to 2559. -/
def rows39 : Array Nat := #[
  0x9da72003e95107ac41d0000c00, 0x9ea80086c4df0000c00, 0x9fa7e07ac41d0000c00, 0xa2a580000c00,
  0xa3a810000c00, 0x103a580000c00, 0x105a580000c00, 0x107a580000c00, 0x10ba580000c00,
  0x10ca580000c00, 0x114a580000c00, 0x114a7d08e04df086843808664370000c00, 0x115a810000c00,
  0x117a580000c00, 0x118a7f08664370000c00, 0x119a580000c00, 0x14ba580000c00, 0x153a580000c00,
  0x155a580000c00, 0x157a7d08e04df086843808664370000c00, 0x158a810000c00, 0x159a580000c00,
  0x15aa580000c00, 0x15aa7d08e04df086843808664370000c00, 0x182a580000c00, 0x186a580000c00,
  0x187a580000c00, 0x19ea580000c00, 0x1a2a580000c00, 0x1b2a7d08e04df086843808664370000c00,
  0x40a580000c00, 0xa3a580000c00, 0xa5a580000c00, 0x115a580000c00, 0x158a580000c00,
  0x159a7137844f0bb844e035c43b0000c00, 0x3ba6a297045b08a64240000c00, 0x3ea6a271645b02144110000c00,
  0x29204331a1242a01ea41d0e624070000c00, 0x229df07c845c035043b26f84360000c00,
  0x15f044515b642a222c4090000c00, 0x298a4a6225042a21c842721c642622864050000c00,
  0x12c6841cee683214668210904280000c00, 0x7f468707f268607f068507c845c0000c00,
  0x1969e308dc4df0830438082e4370000c00, 0x1979e308dc4df0830438082e4370000c00,
  0x1989e308dc4df0830438082e4370000c00, 0xb9a7208e04df086843808664370000c00,
  0x139e32a7e45b00384070000c00, 0x139e32a8045b00384070000c00, 0x40a880000c00, 0xa5a880000c00,
  0xb1a890000c00, 0x125a890000c00, 0x162a890000c00, 0xed24450d4042a222c4090000c00,
  0x12c6841c4868321466820f364280000c00, 0x10589e02064110000c00, 0x174e445160e42a222c4090000c00,
  0x12c6841cee68321466820d144280000c00, 0xc164450bb042a222c4090000c00,
  0x12c6841cee683214668211544280000c00, 0x188e44516a442a222c4090000c00,
  0x12c6841cee6832146682115c4280000c00]

/-- The rows of actions 2560 to 2623. -/
def rows40 : Array Nat := #[
  0x12c6841cee6832146682138a4280000c00, 0x12c6841c486832146682125e4280000c00,
  0x12c6841cee68321466820fb64280000c00, 0x2ab24331a1242a01ea41d0e624070000c00,
  0x15f0445181042a222c4090000c00, 0x38a6a08a64240000c00, 0x8b653b01288fe0000c00,
  0x8b653b003d8fe0000c00, 0x8b853b00388fe0000c00, 0x1a1242a01ea41d0e624070000c00,
  0x1c444341d6a42a222842401904110000c00, 0x22344e726dc45b07c042402064110000c00,
  0x22445c1d7643d222842401904110000c00, 0x1c544341d7842a222842401904110000c00,
  0x229df07c845c035043b0000c00, 0x259920000c00, 0x288a0080e45c1c5843d038e43b0000c00,
  0x7b467602784df0b7a4070000c00, 0x1c5c4341d8242a222842401904110000c00, 0x3889e1a9642a0000c00,
  0x297c45b060042a21b842721b64260000c00, 0x21344df0aae48226984240000c00,
  0x48a8a07c042402064110000c00, 0x159a7005d871005c871035c43b0000c00,
  0x1c6c4341d9c42a222842401904110000c00, 0x1aa8b0000c00, 0x33a8b0000c00,
  0x18be42a01ea41d0e624070000c00, 0x18c042a01ea41d0e624070000c00, 0x7ce68c003ca5c07cc43b0000c00,
  0x7b467602784df0b8a4070000c00, 0x7ce68c0092a5c07cc43b0000c00,
  0x22344e7276045b07c0424020a4110000c00, 0x7b467602784df0b904070000c00,
  0x36445c1d7643d222842401904110000c00, 0x5ba8b0000c00, 0x7b467602784df0b844070000c00,
  0xed9df07c845c035043b0000c00, 0x1019e307c845c0000c00, 0x22344e7280845b07c0424020a4110000c00,
  0x7b467602784df0b964070000c00, 0x1218822a8445b215a44e08a64240000c00, 0xc7a8d0000c00,
  0x159a727c844f11f044e0000c00, 0x1409df07c845c035043b0000c00, 0x14c9e307c845c0000c00,
  0x17c9df07c845c035043b0000c00, 0x1839e307c845c0000c00, 0x19a9df07c845c035043b0000c00,
  0x1af9df07c845c035043b0000c00, 0x1b69df07c845c035043b0000c00, 0x1bf9df07c845c035043b0000c00,
  0x64a8b0000c00, 0x80a8b0000c00, 0xc6a8b0000c00, 0xc8a8b0000c00, 0xeaa8b0000c00,
  0xef9e300244070000c00, 0x13f9e300244070000c00, 0x1799e300244070000c00, 0x1999e300244070000c00,
  0x1ae9e300244070000c00, 0x1b59e300244070000c00, 0x1be9e300244070000c00]

/-- The rows of actions 2624 to 2687. -/
def rows41 : Array Nat := #[
  0x1c29e300244070000c00, 0x24a8e0000c00, 0x73a8e0000c00, 0xe0a8e0000c00, 0x13ba8e0000c00,
  0x139e300384070000c00, 0xc2a8f0000c00, 0xc3a8f0000c00, 0x2b8845b1a3442a219842721964260000c00,
  0x21344df0ac848226984240000c00, 0x48a8a07c0424020a4110000c00,
  0x22344e7284445b07c042402064110000c00, 0x128a6a088e53b0000c00,
  0x22344e7289445b07c0424020a4110000c00, 0x22344e728ba45b07c042402064110000c00,
  0x22344e728bc45b07c0424020a4110000c00, 0x22344e728be45b07c042402064110000c00,
  0x22344e7280845b08a442402064110000c00, 0x1d4043420ba42a222842401904110000c00,
  0x1d4a43420c442a222842401904110000c00, 0x22344e728aa45b07c0424020a4110000c00,
  0x3da6a088e53b0000c00, 0x38a6a089053b0000c00, 0x114a9008e44df08ae43808ac4370000c00,
  0x118a9108ac4370000c00, 0x157a9008e44df08ae43808ac4370000c00,
  0x15aa9008e44df08ae43808ac4370000c00, 0x165a9008e44df08ae43808ac4370000c00,
  0x166a9008e44df08ae43808ac4370000c00, 0x1b2a9008e44df08ae43808ac4370000c00,
  0x1d5843420b442a222842401904110000c00, 0x1d5a43420bc42a222842401904110000c00,
  0x62866044e43b0000c00, 0x96a9108ac4370000c00, 0x9ca9008e44df08ae43808ac4370000c00,
  0x9ea9208b44df0000c00, 0x1d5c43420d642a222842401904110000c00, 0x25866044e43b002583b0000c00,
  0x1d5e43420da42a222842401904110000c00, 0x1c48693027a684100e4280000c00, 0x10a94075445c0000c00,
  0x29444311d6042d18b441e14e44040000c00, 0x60042a21b842721b64260000c00,
  0x1d8442a222842401904110000c00, 0x7d44df09044d2078c44e07d243807d04370000c00,
  0x1c62693027a68410464280000c00, 0x4ea94075445c0000c00, 0x298266b21b842721b64260000c00,
  0x227e66b21c842721c64260000c00, 0x15a950000c00, 0x1d9a43d222842401904110000c00,
  0x1d9e42a222842401904110000c00, 0x28c69629924a606a044f0000c00, 0x748a0080e45c038e43b0000c00,
  0x7d44df07d844e07d243807d043700888070000c00, 0x1daa42a222842401904110000c00,
  0xb025df058852e0000c00, 0x8e44df009486f276643d08ae43808ac4370000c00,
  0x1c6369300a9a93027b68400a9a8400a98280000c00, 0xa40464297a45b07c0424020c4110000c00,
  0x277666b21b842721b64260000c00, 0x1dca43d222842401904110000c00, 0x159a7005c8710000c00,
  0x1dcc42a222842401904110000c00]

/-- The rows of actions 2688 to 2751. -/
def rows42 : Array Nat := #[
  0x28c69629924a606d444f0000c00, 0x215642a01f441d0fbc4070000c00, 0x22be42a01ea41d0e624070000c00,
  0x22c242a01f441d0fbc4070000c00, 0x1dd843d222842401964110000c00, 0xefa97003a4070000c00,
  0x1de043d222842401984110000c00, 0xb045df058a52e0000c00, 0x10fa9807d44df07d243807d04370000c00,
  0x116a9907d44df07d243807d04370000c00, 0x122882215a44e08a64240000c00,
  0x27b266b21b842721b64260000c00, 0x1df243d222842401904110000c00,
  0x28d696013aa9629934a6013a8a6013a84f0000c00, 0x13fa97003a4070000c00,
  0x1dfa43d222842401964110000c00, 0x1e0043d222842401984110000c00, 0xb065df058c52e0000c00,
  0x1e1643d222842401984110000c00, 0xb6f5df014e9df014e92e0000c00, 0x1e2643d222842401904110000c00,
  0x179a97003a4070000c00, 0x1e2843d222842401964110000c00, 0x1e3043d222842401984110000c00,
  0x1e7243d222842401984110000c00, 0x189a9a2a8445b08a64240000c00, 0x1e7c43d222842401904110000c00,
  0x199a97003a4070000c00, 0x1e8443d222842401964110000c00, 0x1e8a43d222842401984110000c00,
  0x1efc43d222842401984110000c00, 0x1f0443d222842401904110000c00, 0x1aea97003a4070000c00,
  0x1f0643d222842401964110000c00, 0x1f7e43d222842401984110000c00, 0x1b5a97003a4070000c00,
  0x1f8a43d222842401964110000c00, 0x1fc243d222842401984110000c00, 0x1bea97003a4070000c00,
  0x1c2a97003a4070000c00, 0x24a9b0000c00, 0x73a9b0000c00, 0xe0a9b0000c00, 0x13ba9b0000c00,
  0x4ea780000c00, 0xbaa780000c00, 0xbba780000c00, 0xbca780000c00, 0x8ea6a0000c00, 0x103a6a0000c00,
  0x14ba6a0000c00, 0x182a6a0000c00, 0x19ea6a0000c00, 0x1cee693027a6840ca44280000c00,
  0x1a3442a219842721964260000c00, 0x7d44df0ef84d2079844e07d243807d04370000c00,
  0x1c62693027a6840cbe4280000c00, 0xb0c5df0f2452e0000c00, 0x1536464297a45b07c0424020c4110000c00,
  0x208e43d222842401984110000c00, 0xb0e5df0f5c52e0000c00, 0x114a9c08e24df088843808864370000c00,
  0x118a9d08864370000c00, 0x209643d222842401984110000c00]

/-- The rows of actions 2752 to 2815. -/
def rows43 : Array Nat := #[
  0xb105df0f8052e0000c00, 0x157a9c08e24df088843808864370000c00,
  0x15aa9c08e24df088843808864370000c00, 0x165a9c08e24df088843808864370000c00,
  0x166a9c08e24df088843808864370000c00, 0x209c43d222842401984110000c00,
  0x209e43d222842401984110000c00, 0x20a043d222842401984110000c00,
  0x1b2a9c08e24df088843808864370000c00, 0x20a243d222842401984110000c00,
  0x7d44df0bee4d2079e44e07d243807d04370000c00, 0xb125df185252e0000c00, 0xb145df186c52e0000c00,
  0xb165df187e52e0000c00, 0x7d44df17fc4d207a444e07d243807d04370000c00, 0xb185df0c3652e0000c00,
  0xb1a5df0c6452e0000c00, 0xb1c5df0c8252e0000c00, 0x7d44df19b24d207aa44e07d243807d04370000c00,
  0xb1e5df19b452e0000c00, 0xb205df19ce52e0000c00, 0xb225df19de52e0000c00,
  0x7d44df19ee4d207b044e07d243807d04370000c00, 0xb245df1cde52e0000c00, 0xb265df1ce052e0000c00,
  0xb285df1ce252e0000c00, 0x29444311d6042d18e841e14fa4040000c00, 0x20c243d222842401904110000c00,
  0x20c642a222842401904110000c00, 0x96a9d08864370000c00, 0x9ca9c08e24df088843808864370000c00,
  0x9ea9e088c4df0000c00, 0x20ca43d222842401904110000c00, 0x20cc42a222842401904110000c00,
  0x20ce43d222842401904110000c00, 0x20d043d222842401904110000c00, 0x20d243d222842401904110000c00,
  0x20d443d222842401904110000c00, 0x4da9f03f044e0000c00, 0xb6a9f03f144e00b684e0000c00,
  0x20be42a222842401904110000c00, 0x20c842a222842401904110000c00, 0x20dc42a222842401904110000c00,
  0x20de42a222842401904110000c00, 0x98c42a22324110000c00, 0x29444311d6042d294e41e0000c00,
  0x1b9a7032846c0000c00, 0x25862037043b002583b0000c00, 0x269dc0000c00, 0x222842401964110000c00,
  0x7ca6841d8c682163c4280000c00, 0x4a4b291c45b294a42a0000c00, 0x29444311d6042d18b441e0000c00,
  0x62aa003ea43b0000c00, 0x222842401904110000c00, 0x1585c1aa244f101e44e035c43b0000c00,
  0x6b9df035043b0000c00, 0x719dc0000c00, 0x6ac6a106aa49406ae41200284070000c00, 0x8f9e30000c00,
  0x75445c075644000108400000c00, 0x7ca6841dbc68216504280000c00, 0xa4aa20000c00,
  0x21344df0aae4820000c00]

/-- The rows of actions 2816 to 2879. -/
def rows44 : Array Nat := #[
  0x6ac6a106aa49406ae41200384070000c00, 0x8dc4df06c24a10830438082e4370000c00, 0xe29dc0000c00,
  0xed9df035043b0000c00, 0x6de6a106dc49406e041200284070000c00, 0xef9e30000c00, 0x1029e30000c00,
  0x25aa3080e45c0000c00, 0x75445c07da44000108400000c00, 0x75445c0758440004e8400000c00,
  0x7d44df010886f07d243807d04370000c00, 0x3e95122d244f078e41d0000c00,
  0x7cb684010da841dbd682010da82010d8280000c00, 0x10ea5c07d44df07d243807d04370000c00,
  0x11aaa20000c00, 0x6ec44f14f044e040843b0000c00, 0x6de6a106dc49406e041200384070000c00,
  0x8dc4df06f84a10830438082e4370000c00, 0x6b9df029a46d029846c0000c00, 0x13c9dc0000c00,
  0x1409df035043b0000c00, 0x222842401984110000c00, 0x13f9e30000c00, 0x14c9e30000c00,
  0x14d9e30000c00, 0x14e9e30000c00, 0x75445c07e8440004e8400000c00, 0x15baa20000c00,
  0x1789dc0000c00, 0x8e24df07fc4a3017a859088843808864370000c00, 0x17b9e30000c00,
  0x17c9df035043b0000c00, 0x1799e30000c00, 0x1839e30000c00, 0x1849e30000c00,
  0x8dc4df07204a10830438082e4370000c00, 0x18aa9a08a64240000c00, 0x19a9df035043b0000c00,
  0x19b9e30000c00, 0x1999e30000c00, 0x19f9e30000c00, 0x1a09e30000c00, 0x1ab9e30000c00,
  0x1ad9e30000c00, 0x1af9df035043b0000c00, 0x1ae9e30000c00, 0x1b19e30000c00, 0x1b79e30000c00,
  0x1b89e30000c00, 0x1b69df035043b0000c00, 0x1b59e30000c00, 0x1ba9e30000c00, 0x1bc9e30000c00,
  0x1bd9e30000c00, 0x1bf9df035043b0000c00, 0x1be9e30000c00, 0x1c19df035043b0000c00,
  0x1c29e30000c00, 0xb9e30000c00, 0x129e30000c00, 0x469e30000c00, 0x479e30000c00, 0x4ea720000c00,
  0x529e30000c00]

/-- The rows of actions 2880 to 2943. -/
def rows45 : Array Nat := #[
  0x1aaa40000c00, 0x33aa40000c00, 0x6c9e30000c00, 0x6d9e30000c00, 0xae9e30000c00, 0xaf9e30000c00,
  0xb09e30000c00, 0xbaa720000c00, 0xbba720000c00, 0xbca720000c00, 0xbf9e30000c00, 0x859e30000c00,
  0x5baa40000c00, 0xd89e30000c00, 0xd99e30000c00, 0xda9e30000c00, 0xfb9e30000c00, 0x1209e30000c00,
  0x1239e30000c00, 0x1249e30000c00, 0x12b9e30000c00, 0xf29e30000c00, 0x12a9e30000c00,
  0x12f9e30000c00, 0x1369e30000c00, 0x1479e30000c00, 0x1499e30000c00, 0x15c9e30000c00,
  0x15f9e30000c00, 0x1609e30000c00, 0x16a9e30000c00, 0x1439e30000c00, 0x1689e30000c00,
  0x16d9e30000c00, 0x1819e30000c00, 0x1809e30000c00, 0x1889e30000c00, 0x18b9e30000c00,
  0x18f9e30000c00, 0x18d9e30000c00, 0x19d9e30000c00, 0x1a39e30000c00, 0x1a49e30000c00,
  0x1a69e30000c00, 0x149e30000c00, 0x599e30000c00, 0x110aa500c285b0000c00, 0x110aa500c385b0000c00,
  0x143442a269c4110000c00, 0x7ca68420786820ee64280000c00, 0x1585c200044f101e44e035c43b0000c00,
  0x6ac6a106aa49406ae412002c4070000c00, 0x75445c077444000108400000c00,
  0x7ca6841dbc6820f3e4280000c00, 0x21344df0ac84820000c00, 0x200a6a12008494200c41200384070000c00,
  0x8dc4df20244a10830438082e4370000c00, 0x6de6a106dc49406e0412002c4070000c00,
  0x75445c083244000108400000c00, 0x75445c0776440004e8400000c00, 0x203644f14fe44e040843b0000c00,
  0x202a6a12028494202c41200384070000c00, 0xfc9e4202e4940000c00,
  0x8dc4df20464a10830438082e4370000c00]

/-- The rows of actions 2944 to 3007. -/
def rows46 : Array Nat := #[
  0x75445c083a440004e8400000c00, 0x1499e420484940000c00, 0x14a9e4204a4940000c00,
  0x8dc4df205e4a10830438082e4370000c00, 0x1809e4205c4940000c00, 0x7ca68420a868218424280000c00,
  0x200a6a12008494200c412002c4070000c00, 0x7ca6841dbc682185e4280000c00,
  0x202a6a12028494202c412002c4070000c00, 0x7ca68420ae6820c244280000c00,
  0x7ca6841dbc6820c484280000c00, 0x7ca68420b268219a44280000c00, 0x7ca6841dbc68219c04280000c00,
  0x29444311d6042d18e841e0000c00, 0x2b464311d6042d18ec41e0000c00, 0x2b464311d6042d2abc41e0000c00,
  0x75445c078644000108400000c00, 0x75445c08b244000108400000c00, 0x75445c0788440004e8400000c00,
  0x75445c08ba440004e8400000c00, 0x4a4b291c45b2b4842a0000c00, 0x21066a60ba84260000c00,
  0x21086a70ba84270000c00, 0x22386a806624a10000c00, 0x4a4b291c45b0000c00, 0x1d6042d18b641e0000c00,
  0x6644a126f240a0000c00, 0x6664a126f240a0000c00, 0x66a4a11a8c44e0000c00, 0x66c4a11a8c44e0000c00,
  0x18f845901fc44e035243b0000c00, 0x21306a60bac4260000c00, 0x21326a70bac4270000c00,
  0x4d8a1032e44e0000c00, 0x22386a8068c4a10000c00, 0x15a4202844400000c00, 0x15a4202864400000c00,
  0x68e4a126f240a0000c00, 0x6904a126f240a0000c00, 0x692494069441226f240a0000c00,
  0x291a434179e4070000c00, 0x6984a11a8c44e0000c00, 0x69a4a11a8c44e0000c00, 0x758a0038e43b0000c00,
  0x147a6970000c00, 0x87aa9029444e0000c00, 0x1d6042d15064040000c00, 0x7c0424020c4110000c00,
  0x7d44df164c46407d243807d04370000c00, 0x9ba5c07cc43b0000c00, 0x1dc04d21a9242a296840d0000c00,
  0x21316a600a6aa600a68260000c00, 0x21336a700a7aa700a78270000c00, 0x1aae42a0000c00,
  0xb68a1032f44e00b684e0000c00, 0x5d871001585c035c43b0000c00, 0x6c449406c641226f240a0000c00,
  0xd78a11a8d44e00d784e0000c00, 0xe38a0038e43b0000c00, 0xf4aa9029444e0000c00,
  0x106a5c07cc43b0000c00, 0x98aaa0043aaa0043a830000c00, 0x3e95122d244f0000c00,
  0x8e44df07ec43d08ae43808ac4370000c00]

/-- The rows of actions 3008 to 3071. -/
def rows47 : Array Nat := #[
  0x116aab07d944e011684e0000c00, 0x7d44df166645907d243807d04370000c00,
  0x1df04d21a9242a296840d0000c00, 0x11caac0000c00, 0x122882215a44e0000c00, 0x29667703a243b0000c00,
  0x145aa9029544e014584e0000c00, 0x1ca642a0000c00, 0x15d882215a44e0000c00, 0x15e882215a44e0000c00,
  0x7d44df1a1e45907d243807d04370000c00, 0x7d44df1a2045907d243807d04370000c00,
  0x7d44df080245c07d243807d04370000c00, 0x18a882215b44e018a84e0000c00, 0x18c871040843b0000c00,
  0x7d44df1a2a45907d243807d04370000c00, 0x7d44df1a2c45907d243807d04370000c00,
  0x7d44df01ac85907d243807d04370000c00, 0x7d44df1a2e45907d243807d04370000c00,
  0x7d44df1a3045907d243807d04370000c00, 0x21806a601ca4260000c00, 0x21826a701ca4270000c00,
  0x22386a81fde4a10000c00, 0x1fe44a11a8c44e0000c00, 0x1fe64a11a8c44e0000c00,
  0x1ba045901fc44e035243b0000c00, 0x21306a601ce4260000c00, 0x21326a701ce4270000c00,
  0x22386a81ffc4a10000c00, 0x20024a11a8c44e0000c00, 0x20044a11a8c44e0000c00,
  0x88042402064110000c00, 0x7d44df0f3a46407d243807d04370000c00, 0x25ec4d21a9242a296840d0000c00,
  0x7d44df0f7845907d243807d04370000c00, 0x25ee4d21a9242a296840d0000c00,
  0x7d44df082245c07d243807d04370000c00, 0x219a6a6160c4260000c00, 0x219c6a7160c4270000c00,
  0x21306a616144260000c00, 0x21326a716144270000c00, 0x8a442402104110000c00,
  0x7d44df185a46407d243807d04370000c00, 0x7d44df187445907d243807d04370000c00,
  0x7d44df084045c07d243807d04370000c00, 0x21aa6a60bca4260000c00, 0x21ac6a70bca4270000c00,
  0x21306a60bd04260000c00, 0x21326a70bd04270000c00, 0x89e424020a4110000c00,
  0x7d44df0c4446407d243807d04370000c00, 0x7d44df0c7c45907d243807d04370000c00,
  0x7d44df085a45c07d243807d04370000c00, 0x21ba6a605804260000c00, 0x21bc6a705804270000c00,
  0x21306a605824260000c00, 0x21326a705824270000c00, 0x8a842402124110000c00,
  0x7d44df19bc46407d243807d04370000c00, 0x7d44df19d845907d243807d04370000c00,
  0x7d44df087445c07d243807d04370000c00, 0x21ca6a61a384260000c00, 0x21cc6a71a384270000c00,
  0x21306a61a3a4260000c00]

/-- The rows of actions 3072 to 3135. -/
def rows48 : Array Nat := #[
  0x21326a71a3a4270000c00, 0x8a642402144110000c00, 0x21d46a619ec4260000c00,
  0x21d66a719ec4270000c00, 0x21306a619f04260000c00, 0x21326a719f04270000c00, 0x4a4b29e645b0000c00,
  0x1d6042d18e041e0000c00, 0x7d44df089845c07d243807d04370000c00, 0x2586a03ea43b002583b0000c00,
  0x8e44df08be43d08ae43808ac4370000c00, 0x7d44df08c445c07d243807d04370000c00,
  0x8e44df08c643d08ae43808ac4370000c00, 0x8e44df08c843d08ae43808ac4370000c00,
  0x8e44df08ca43d08ae43808ac4370000c00, 0x8e44df08d643d08ae43808ac4370000c00,
  0x8e44df08da43d08ae43808ac4370000c00, 0x26c841301ec4110000c00, 0x64e4a126ca42a0000c00,
  0x6504a126cc42a0000c00, 0x22386a81c4c4a30000c00, 0x221042a18164070000c00, 0x7c643b22284240000c00,
  0x18f244f101e44e0000c00, 0x102044f11f044e0000c00, 0x20a59225443b0000c00, 0x24aad0000c00,
  0x225a464019244e0000c00, 0x18f845901fc44e0000c00, 0x102e459022844e0000c00,
  0x1a9242a296840d0000c00, 0x7b467600358070000c00, 0x4aae0000c00, 0x271445b020c4110000c00,
  0x1d8e4d2212e44e0000c00, 0x1c6442a0000c00, 0x48a8a0000c00, 0xa3842b0a3642a028a41d0000c00,
  0x219842721964260000c00, 0x55aaf0000c00, 0x228044f18bc44e0000c00, 0x1c664a300568710000c00,
  0x105844f11f044e0000c00, 0x190244f101e44e0000c00, 0x190444f101e44e0000c00,
  0x105c44f11f044e0000c00, 0x5f84f11f144e005f84e0000c00, 0x5e84f101f44e005e84e0000c00,
  0x1fab00000c00, 0x20a59298843b0000c00, 0x548a300208710000c00, 0x298c44f181c44e0000c00,
  0x298e6b1228e42a0000c00, 0x6b9df0000c00, 0x29067703ea43b0000c00, 0x73aad0000c00,
  0x2298464019444e0000c00, 0x1c7441100244070000c00, 0x7dab20000c00, 0x7e86f035243b0000c00,
  0x106e459022844e0000c00, 0x190e45901fc44e0000c00, 0x7d859022944e007d84e0000c00,
  0x7e85901fd44e007e84e0000c00]

/-- The rows of actions 3136 to 3199. -/
def rows49 : Array Nat := #[
  0x147a5df0000c00, 0x164e45906b044e0000c00, 0x7d44df07d243807d04370000c00, 0x9064d2079044e0000c00,
  0x1dc04d2215044e0000c00, 0xaae4820000c00, 0xde0464023c44e0000c00, 0xbeab30000c00,
  0x1c864a300c08710000c00, 0xc1aaf0000c00, 0x22b244f18c244e0000c00, 0xcc871035243b0000c00,
  0x22b64a3001f8710000c00, 0x279042a224c4050000c00, 0x279242a224c4050000c00,
  0x29a444f181e44e0000c00, 0x6cc4a12a7e45b0000c00, 0x6cc4a12a8045b0000c00, 0xd69df0000c00,
  0xd79df0000c00, 0xe0aad0000c00, 0xe186401bb44e00e184e0000c00, 0xed9df0000c00,
  0x7d844e00f58070000c00, 0x15be42b15bc42a165a41d0000c00, 0x15c642b15c442a165c41d0000c00,
  0x15ce42b15cc42a165e41d0000c00, 0x15d642b15d442a166041d0000c00, 0x166245906e444e0000c00,
  0x11b8d222d544e011b84e0000c00, 0x6ee44f14f244e0000c00, 0xde6464023c44e0000c00, 0x12caaf0000c00,
  0x12d84f191d44e012d84e0000c00, 0x27c442a224c4050000c00, 0x27c642a224c4050000c00,
  0x13584f18c544e013584e0000c00, 0x21b842721b64260000c00, 0x29667727984940000c00, 0x13baad0000c00,
  0x27ce464080e45c0000c00, 0x1409df0000c00, 0x1419df0000c00, 0x1459dd0000c00,
  0x154859075344e015484e0000c00, 0x156aaa0000c00, 0x70a44f14f444e0000c00, 0x70e44f14f644e0000c00,
  0x16caaf0000c00, 0x17c9df0000c00, 0x17d9df0000c00, 0x18aa9a0000c00,
  0x18c84f152f44e018c84e0000c00, 0x191ab30000c00, 0x19a9df0000c00, 0x19c9df0000c00,
  0x1af9df0000c00, 0x1b09df0000c00, 0x1b69df0000c00, 0x1b99df0000c00, 0x1bf9df0000c00,
  0x1c19df0000c00, 0x1c39df0000c00, 0x4d864037644e0000c00]

/-- The rows of actions 3200 to 3263. -/
def rows50 : Array Nat := #[
  0xa4ab40000c00, 0xb6864037744e00b684e0000c00, 0x11aab40000c00, 0x15bab40000c00, 0x9aa9a0000c00,
  0xa2a9a0000c00, 0x1b9e44f101e44e0000c00, 0xcae44f11f044e0000c00, 0x1cce464019a44e0000c00,
  0x1ba045901fc44e0000c00, 0xcb2459022844e0000c00, 0x281c45b02064110000c00,
  0x25e84d2218e44e0000c00, 0x94e42b094c42a02ba41d0000c00, 0xccc44f11f044e0000c00,
  0x1ba244f101e44e0000c00, 0x1ba444f101e44e0000c00, 0xcce44f11f044e0000c00,
  0x1cd0464019c44e0000c00, 0xcd2459022844e0000c00, 0x1ba645901fc44e0000c00, 0xf3c459073c44e0000c00,
  0x8d84df081243808104370000c00, 0xf544d2079c44e0000c00, 0x25ec4d2219244e0000c00, 0xac84820000c00,
  0xbbe464023c44e0000c00, 0x20264a12a7e45b0000c00, 0x20264a12a8045b0000c00, 0xf70459073e44e0000c00,
  0x203844f150044e0000c00, 0xbc0464023c44e0000c00, 0x205044f150244e0000c00,
  0x205444f150444e0000c00, 0x27f844f11f044e0000c00, 0x1bc6464019e44e0000c00,
  0x288245b02104110000c00, 0x27fa44f11f044e0000c00, 0x27fc44f11f044e0000c00,
  0x1bc846401a044e0000c00, 0x185c459074244e0000c00, 0x8dc4df0830438082e4370000c00,
  0xbf84d207a244e0000c00, 0x794464023c44e0000c00, 0x167642b167442a16ae41d0000c00,
  0x167e42b167c42a16b041d0000c00, 0x168642b168442a16b241d0000c00, 0x168e42b168c42a16b441d0000c00,
  0x186e459074444e0000c00, 0x796464023c44e0000c00, 0x289c45b020a4110000c00, 0xc46459074844e0000c00,
  0x8de4df084e438084c4370000c00, 0x17fe4d207a844e0000c00, 0x137e464023c44e0000c00,
  0xc76459074a44e0000c00, 0x1380464023c44e0000c00, 0x28ac45b02124110000c00,
  0x19be459074e44e0000c00, 0x8e04df086843808664370000c00, 0x19c64d207ae44e0000c00,
  0x176a464023c44e0000c00, 0x177042b176e42a16ba41d0000c00, 0x177842b177642a16bc41d0000c00]

/-- The rows of actions 3264 to 3327. -/
def rows51 : Array Nat := #[
  0x178042b177e42a16be41d0000c00, 0x178842b178642a16c041d0000c00, 0x19d0459075044e0000c00,
  0x176c464023c44e0000c00, 0x19f24d207b244e0000c00, 0x18aa464023c44e0000c00,
  0x18ac464023c44e0000c00, 0x1a3e464023c44e0000c00, 0x1a40464023c44e0000c00,
  0x28c841301f64110000c00, 0x26a642a18164070000c00, 0x271445b020e4110000c00, 0x1cf242a0000c00,
  0x6e4cb006e8140000c00, 0x7d864023d44e007d84e0000c00, 0x8e24df088843808864370000c00,
  0x271445b02144110000c00, 0x8aa43b22284240000c00, 0x290677044e43b0000c00,
  0x8e44df08ae43808ac4370000c00, 0x2586f04e643b002583b0000c00, 0x2764110000c00, 0x244070000c00,
  0x6524a10000c00, 0x65c4a10000c00, 0x1904110000c00, 0x294c4341d7242a0000c00, 0x22386a80000c00,
  0x21aa8211844e0000c00, 0x1c564070000c00, 0x2604110000c00, 0x6764a10000c00, 0x6784a10000c00,
  0x67a4a10000c00, 0x67c4a10000c00, 0xb7a4070000c00, 0x2c4070000c00, 0x14ea4070000c00,
  0xa3442b0a3242a0000c00, 0xa3842b0a3642a0000c00, 0x2064110000c00, 0x4ea940000c00,
  0x68649406884120000c00, 0x29844341d9242a0000c00, 0x5e8710000c00, 0x5f8710000c00, 0x678710000c00,
  0x10604070000c00, 0x6964a10000c00, 0x6904a10000c00, 0x7c845c0000c00, 0x758a00000c00,
  0x2ac4110000c00, 0x7e86f0000c00, 0xb8a4070000c00, 0x80e45c0000c00, 0x9ba5c0000c00,
  0x160042b15fe42a0000c00, 0x160642b160442a0000c00, 0x160a42b160842a0000c00, 0x20c4110000c00,
  0xbaa940000c00, 0xbba940000c00, 0xbca940000c00]

/-- The rows of actions 3328 to 3391. -/
def rows52 : Array Nat := #[
  0x6bc49406be4120000c00, 0x6c04a10000c00, 0x228e42a0000c00, 0xb904070000c00, 0xcc8710000c00,
  0xcd8710000c00, 0x6c84a10000c00, 0x6ca4a10000c00, 0xd18710000c00, 0x6ce49406d04120000c00,
  0xd38a10000c00, 0xe18a00000c00, 0xe38a00000c00, 0xe48a00000c00, 0xb844070000c00, 0x284070000c00,
  0x1984110000c00, 0x15be42b15bc42a0000c00, 0x15c242b15c042a0000c00, 0x15ca42b15c842a0000c00,
  0x15d242b15d042a0000c00, 0x106a5c0000c00, 0x94442b094242a0000c00, 0x10986f0000c00,
  0x10a86f0000c00, 0x111a5c0000c00, 0x11ba5c0000c00, 0xb964070000c00, 0x12d8710000c00,
  0x12e8710000c00, 0x384070000c00, 0x1308710000c00, 0x6fa49406fc4120000c00, 0x1328710000c00,
  0x1338710000c00, 0x1358710000c00, 0x198a10000c00, 0x29c6770000c00, 0x13d8a00000c00,
  0x151a5c0000c00, 0x15286f0000c00, 0x15486f0000c00, 0x1618710000c00, 0x16b8710000c00,
  0x16e8710000c00, 0x1708710000c00, 0x1718710000c00, 0x5a8a10000c00, 0x29a46d029846c0000c00,
  0x7e446c080045c0000c00, 0x18c8710000c00, 0x1908710000c00, 0x1a78710000c00, 0x1b38710000c00,
  0x1bb8710000c00, 0x1c08710000c00, 0x658a10000c00, 0xc58a10000c00, 0xca8a10000c00,
  0x1964110000c00, 0x304070000c00, 0x14fc4070000c00, 0x94a42b094842a0000c00, 0x94e42b094c42a0000c00]

/-- The rows of actions 3392 to 3455. -/
def rows53 : Array Nat := #[
  0x20a4110000c00, 0x1ff64941ff84120000c00, 0x3a4070000c00, 0xf4442b0f4242a0000c00,
  0xf4e42b0f4c42a0000c00, 0xf5242b0f5042a0000c00, 0x20e4110000c00, 0x2018494201a4120000c00,
  0x201c4a10000c00, 0xf6042b0f5e42a0000c00, 0xf6442b0f6242a0000c00, 0xf6842b0f6642a0000c00,
  0xf6c42b0f6a42a0000c00, 0x9fc42b09fa42a0000c00, 0x175c42b175a42a0000c00, 0x176242b176042a0000c00,
  0x176642b176442a0000c00, 0x167642b167442a0000c00, 0x167a42b167842a0000c00,
  0x168242b168042a0000c00, 0x168a42b168842a0000c00, 0xa5042b0a4e42a0000c00, 0xc4e42b0c4c42a0000c00,
  0xc5842b0c5642a0000c00, 0xc5c42b0c5a42a0000c00, 0xc6842b0c6642a0000c00, 0xc6c42b0c6a42a0000c00,
  0xc7042b0c6e42a0000c00, 0xc7442b0c7242a0000c00, 0xa8c42b0a8a42a0000c00, 0x189e42b189c42a0000c00,
  0x18a442b18a242a0000c00, 0x18a842b18a642a0000c00, 0x177042b176e42a0000c00,
  0x177442b177242a0000c00, 0x177c42b177a42a0000c00, 0x178442b178242a0000c00,
  0xa9242b0a9042a0000c00, 0xac442b0ac242a0000c00, 0xa0242b0a0042a0000c00, 0x262842a0000c00,
  0x2b8443420b842a0000c00, 0x2b8a43420c042a0000c00, 0x29326b50000c00, 0x32846c0000c00,
  0x294241e0000c00, 0x1a8042a0000c00, 0x26da42a0000c00, 0x1c020000c00, 0x2804400000c00,
  0x32643b0000c00, 0x29464060000c00, 0x294a42a0000c00, 0x18f042a0000c00, 0x26e64200000c00,
  0x34e43b0000c00, 0x29584a30000c00, 0x10266b60000c00, 0x21aa80000c00, 0x26fa42a0000c00,
  0xa304640000c00, 0x26fe4140000c00, 0x358070000c00, 0x2844400000c00]

/-- The rows of actions 3456 to 3519. -/
def rows54 : Array Nat := #[
  0x2864400000c00, 0x2884400000c00, 0x10266b70000c00, 0x35643b0000c00, 0x103c6b80000c00,
  0x163a4500000c00, 0x212c4210000c00, 0x172642a0000c00, 0x161e6b90000c00, 0x297245b0000c00,
  0x7564400000c00, 0x221042a0000c00, 0x18fa42a0000c00, 0x298041e0000c00, 0x272842a0000c00,
  0x228044f0000c00, 0x272a43b0000c00, 0x1d9442a0000c00, 0x190042a0000c00, 0x7d643b0000c00,
  0x1ae42a0000c00, 0x1b042a0000c00, 0x35e43b0000c00, 0x298642a0000c00, 0x298c44f0000c00,
  0x66aa80000c00, 0x228a4a30000c00, 0x22c45c0000c00, 0x2584120000c00, 0xa3a4640000c00,
  0x29984470000c00, 0x1a9642a0000c00, 0x8a8070000c00, 0x21424210000c00, 0x7da4400000c00,
  0x15fc42a0000c00, 0x160242a0000c00, 0x7584400000c00, 0x215244f0000c00, 0xa404640000c00,
  0x9b242a0000c00, 0x299e42a0000c00, 0xa424590000c00, 0x191242a0000c00, 0xbdaa80000c00,
  0x1dc442a0000c00, 0xcfaa80000c00, 0x298e6b10000c00, 0x22b84a30000c00, 0xd2aa80000c00,
  0x22bc4110000c00, 0xd4aa80000c00, 0x1445c0000c00, 0x2644120000c00, 0x1a1a4590000c00,
  0x15b441d0000c00, 0x7e84400000c00, 0x7ea4400000c00, 0x7ee45c0000c00, 0xa444590000c00,
  0x7e053b0000c00, 0x134aa80000c00, 0x1845c0000c00, 0x75a4640000c00]

/-- The rows of actions 3520 to 3583. -/
def rows55 : Array Nat := #[
  0x75c4640000c00, 0x524640000c00, 0x2684120000c00, 0x1a1c4590000c00, 0x7fa4400000c00,
  0x172aa80000c00, 0x23004640000c00, 0x75e4640000c00, 0x584640000c00, 0x5a4640000c00,
  0x27de4640000c00, 0x7fe45c0000c00, 0x1a284590000c00, 0x15d84590000c00, 0x15da4590000c00,
  0x15dc4590000c00, 0x15de4590000c00, 0x15e04590000c00, 0x15e24590000c00, 0x15e44590000c00,
  0x15e64590000c00, 0x15e84590000c00, 0x15ea4590000c00, 0x7624640000c00, 0x7664640000c00,
  0x7684640000c00, 0x5e4640000c00, 0x37246c0000c00, 0x2a24400000c00, 0x44e43b0000c00,
  0xcb06b60000c00, 0x76c4640000c00, 0x2a44400000c00, 0x2a64400000c00, 0x2a84400000c00,
  0xcb06b70000c00, 0x39243b0000c00, 0xdf66b80000c00, 0xee44500000c00, 0xeee42a0000c00,
  0xdf86b90000c00, 0x76e4400000c00, 0x63e42a0000c00, 0x64042a0000c00, 0x7704640000c00,
  0x8144400000c00, 0xf4042a0000c00, 0xf4642a0000c00, 0x7724400000c00, 0x15364640000c00,
  0x14a242a0000c00, 0x9504590000c00, 0x81c4400000c00, 0x81e4400000c00, 0x9524590000c00,
  0x81a53b0000c00, 0x8204400000c00, 0x9724640000c00, 0x123c6b80000c00, 0x18404500000c00,
  0x184a42a0000c00, 0x17f06b90000c00, 0x7744400000c00, 0xd1042a0000c00]

/-- The rows of actions 3584 to 3647. -/
def rows56 : Array Nat := #[
  0xd1242a0000c00, 0x9744640000c00, 0x8324400000c00, 0x175842a0000c00, 0x175e42a0000c00,
  0x7764400000c00, 0x83a4400000c00, 0x83c4400000c00, 0x89c53b0000c00, 0x83e4400000c00,
  0x16904590000c00, 0x16924590000c00, 0x16944590000c00, 0x16964590000c00, 0x16984590000c00,
  0x169a4590000c00, 0x169c4590000c00, 0x169e4590000c00, 0x16a04590000c00, 0x16a24590000c00,
  0x6424640000c00, 0x114e6b80000c00, 0xc224500000c00, 0xc2c42a0000c00, 0xbce6b90000c00,
  0x7784400000c00, 0xd1c42a0000c00, 0xd1e42a0000c00, 0x6444640000c00, 0x8504400000c00,
  0xc4a42a0000c00, 0xc5042a0000c00, 0x77a4400000c00, 0x8544400000c00, 0x8564400000c00,
  0x83853b0000c00, 0x8584400000c00, 0x141c6b80000c00, 0x19a24500000c00, 0x19ac42a0000c00,
  0x18d86b90000c00, 0x77c4400000c00, 0x1bce42a0000c00, 0x1bd042a0000c00, 0x86a4400000c00,
  0x206a42a0000c00, 0x206c42a0000c00, 0x77e4400000c00, 0x86e4400000c00, 0x8704400000c00,
  0x8a253b0000c00, 0x8724400000c00, 0x178a4590000c00, 0x178c4590000c00, 0x178e4590000c00,
  0x17904590000c00, 0x17924590000c00, 0x17944590000c00, 0x17964590000c00, 0x17984590000c00,
  0x179a4590000c00, 0x179c4590000c00, 0x189a42a0000c00, 0x18a042a0000c00]

/-- The rows of actions 3648 to 3711. -/
def rows57 : Array Nat := #[
  0x29f46b50000c00, 0x1bd842a0000c00, 0x280642a0000c00, 0x19fa42a0000c00, 0x281242a0000c00,
  0x2a0845b0000c00, 0x7804400000c00, 0x1a0042a0000c00, 0x282a42a0000c00, 0x1a0442a0000c00,
  0x88a4400000c00, 0x7824400000c00, 0x1a0842a0000c00, 0x8924400000c00, 0x8944400000c00,
  0x89053b0000c00, 0x724640000c00, 0x8964400000c00, 0x784640000c00, 0x7a4640000c00, 0x7e4640000c00,
  0x3ec46c0000c00, 0x2c04400000c00, 0x37043b0000c00, 0x2c24400000c00, 0x2c44400000c00,
  0x2c64400000c00, 0x40c43b0000c00, 0x2a1e6b50000c00, 0x2a3245b0000c00, 0x45046c0000c00,
  0x2d84400000c00, 0x2da4400000c00, 0x2dc4400000c00, 0x2de4400000c00, 0x46c43b0000c00,
  0x2a546b50000c00, 0x2a6845b0000c00, 0x48446c0000c00, 0x2e44400000c00, 0x2e64400000c00,
  0x2e84400000c00, 0x2ea4400000c00, 0x4a043b0000c00, 0x2a746b50000c00, 0x2a8645b0000c00,
  0x4b646c0000c00, 0x2f04400000c00, 0x2f24400000c00, 0x2f44400000c00, 0x2f64400000c00,
  0x4d243b0000c00, 0x2aa845b0000c00, 0x4e846c0000c00, 0x2fc4400000c00, 0x2fe4400000c00,
  0x3004400000c00, 0x3024400000c00, 0x50443b0000c00, 0x51846c0000c00, 0x3084400000c00,
  0x30a4400000c00, 0x30c4400000c00, 0x30e4400000c00]

/-- The rows of actions 3712 to 3761. -/
def rows58 : Array Nat := #[
  0x53443b0000c00, 0x3ba46c0000c00, 0x2ab841e0000c00, 0x2b24400000c00, 0x3b843b0000c00,
  0x2aba4060000c00, 0x2b44400000c00, 0x2b64400000c00, 0x2b84400000c00, 0x3da43b0000c00,
  0x21de4210000c00, 0x1d4642a0000c00, 0x7864400000c00, 0x26a642a0000c00, 0x2ac241e0000c00,
  0x28d043b0000c00, 0x8b043b0000c00, 0x8b24400000c00, 0x7884400000c00, 0x26c4120000c00,
  0x8ba4400000c00, 0x8bc4400000c00, 0x8c045c0000c00, 0x8b853b0000c00, 0x2704120000c00,
  0x8c24400000c00, 0x3ea43b0000c00, 0x42246c0000c00, 0x2cc4400000c00, 0x42043b0000c00,
  0x2ce4400000c00, 0x2d04400000c00, 0x2d24400000c00, 0x44043b0000c00, 0x21e44210000c00,
  0x48243b0000c00, 0x21e84210000c00, 0x4b443b0000c00, 0x21ec4210000c00, 0x4e643b0000c00,
  0x51643b0000c00, 0x2b4842a0000c00, 0x28f04200000c00, 0x21f24210000c00, 0x1c3242a0000c00,
  0x20e442a0000c00, 0x25e4120000c00, 0x2b5642a0000c00, 0x20ea42a0000c00, 0x22004210000c00]

/-- The rows of actions by their numbers. -/
def rows : Array (Array Nat) := #[
  rows0, rows1, rows2, rows3, rows4, rows5, rows6, rows7, rows8, rows9, rows10, rows11, rows12,
  rows13, rows14, rows15, rows16, rows17, rows18, rows19, rows20, rows21, rows22, rows23, rows24,
  rows25, rows26, rows27, rows28, rows29, rows30, rows31, rows32, rows33, rows34, rows35, rows36,
  rows37, rows38, rows39, rows40, rows41, rows42, rows43, rows44, rows45, rows46, rows47, rows48,
  rows49, rows50, rows51, rows52, rows53, rows54, rows55, rows56, rows57, rows58]

end UiHarness.Syntax.Automaton.Plain
