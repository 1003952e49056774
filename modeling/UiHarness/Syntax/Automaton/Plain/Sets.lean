/-!
# Sets of tokens in plain source

Each number is a set of tokens: the bits of the tokens in it are one.
-/

namespace UiHarness.Syntax.Automaton.Plain

/-- The sets of tokens 0 to 63. -/
def sets0 : Array Nat := #[
  0x800000000000000080000000000000000000000000, 0x77ffbff81ffffffe74fffffffffffffffffffffffff, 0x1,
  0x4, 0x8, 0x40, 0x200, 0x400, 0xe000c0000000000000102000, 0x4000, 0x10000, 0x20000, 0x40000,
  0x80000, 0x400000, 0x800000, 0x1000000, 0x2000000, 0x4000000, 0x10000000, 0x80000000,
  0x100000000, 0x200000000, 0x400000000, 0x800000000, 0x1000000000, 0x2000000000, 0x4000000000,
  0x80000000000, 0x100000000000, 0x800000000000, 0x1000000000000, 0x2000000000000,
  0x10000000000000, 0x20000000000000, 0x100000000000000000000, 0x800000000000000000000,
  0x3000000000000000000000000, 0x4000000000000000000000000, 0x8000000000000000000000000,
  0x100000000000000000000000000, 0x3e2000000000000000000000000000, 0x2,
  0x4000000000000000000000000000, 0x400000000000000000000000000000,
  0x800000000000000000000000000000, 0x1fbcf000000000000000000000000000000,
  0x20000000000000000000000000000000, 0x400000000000000000000000000000000,
  0x800000000000000000000000000000000000, 0x40000000000000000000000000000000000000,
  0x80000000000000000000000000000000000000, 0x10, 0x4000020000000000001ff617c00008400020000100,
  0x100000, 0x8000000000000000000, 0x20000000000000000000, 0xc0000000000000000000,
  0x1fffc0000000000000, 0x80, 0x8008000800, 0x10000000000000000000000000000000,
  0x7ed000000000000000000000000040048, 0x2000]

/-- The sets of tokens 64 to 127. -/
def sets1 : Array Nat := #[
  0x4000000000000, 0x200000000000000000, 0xa00000000000000000000000, 0x400000000000000000000000,
  0x382000000000000000000000000000, 0x20000000000000000000000000000,
  0x40000000000000000000000000000, 0x2000000000000000000000000000000,
  0x1f800000000000000000000000000000000, 0x1000000000000000000000000000000000000000,
  0x4000000000000000000000000000000000000000, 0x8000000000000000000000000000000000000000,
  0x30000000000000000000000000000000000000000, 0x40000000000000000000000000000000000000000, 0x800,
  0x1000, 0x2000000000000000000000000000, 0x3e0000000000000000000000000000,
  0x1000000000000000000000000000000, 0xc000000000000000000000000000000,
  0x1c0000000000000000000000000000000, 0x200000000000000000000000000000000, 0x10000001021,
  0x10000001020, 0xa00000000000000000100000, 0x200000000000,
  0x5000020000000000001ff63fc00008000024000910, 0x400000000000, 0x8000000000,
  0x1ffef000000000000000000000000040048, 0x4000020000000000001ff63fc00008400020000110,
  0xc0000000000000100000, 0xe00000000000000000002000, 0x3c2000000000000000000000000000,
  0x10000000000000000000008008000800, 0x42d000000000000000000000000040048, 0x8000000,
  0x4000020000000000001ff63fc00008000020000110, 0x10000000000000000000208008001800,
  0x4000020000000000001ff63fc00008208024001910, 0x5000020000000000001ff63fc00008000024001910,
  0x5000020000000000001ff63fc00008000064000910, 0x200000001800,
  0x4000020000000000001ff63fc00008000004000910, 0x20000000, 0x40000000,
  0x4000020000000000001ff63fc00008008028000910, 0x200000000800,
  0x4000020000000000001ff63fc00008200020000110, 0x1800,
  0x5000020000000000001ff63fc00008000024000110, 0x4000120000000000001ff63fc00008000020000910,
  0x4000020000000000001ff63fc00008000000000110, 0x4000020000000000001ff63fc00008008020000110,
  0x4000020000000000001ff63fc00008000060000110, 0x4000020000000000001ff63fc00008608024001900,
  0x5000020000000000001ff63fc00008400024001900, 0x5000020000000000001ff63fc00008400064000900,
  0x4000020000000000001ff63fc00008408028000900, 0x5000020000000000001ff63fc00008400024000100,
  0x4000120000000000001ff63fc00008400020000900, 0x4000020000000000001ff63fc00008400060000100,
  0x4000020000000000001ff63fc00008408020000100, 0x4000020000000000001ff63fc00008600020000100]

/-- The sets of tokens 128 to 191. -/
def sets2 : Array Nat := #[
  0x4000020000000000001ff63fc00008400020000100, 0x4000020000000000031ff717c00008608024101900,
  0x40000000000000000000000000000000000000400, 0x3000001f800000000400000000000000000000000,
  0x782000000000000000000000000000, 0x5000020000000000031ff717c00008400024101900,
  0x5000020000000000031ff717c00008400064100900, 0x4000020000000000031ff717c00008408028100900,
  0x4000020000000000031ff717c00008400020100100, 0x1fbcf000000000000000000000000000008,
  0x5000020000000000031ff717c00008400024100100, 0x4000120000000000031ff717c00008400020100900,
  0x4000020000000000031ff717c00008408020100100, 0x4000020000000000031ff717c00008600020100100,
  0x4000020000000000031ff717c00008400060100100, 0x1fc2d000000000000000000000000040048,
  0x5000c281ffeffe610fffffffc0003b997fb7ff7b7b, 0x5000c281ffeffe610fffffffc0003bd97fb7ff7b7b,
  0xc081ffeffe610fe009c0000033997f97ff766b, 0x4000020000000000001ff63fc00008400020000910,
  0x100000000000000000000000000000000000000000, 0x5000020000000000001ff63fc00008400020000910,
  0x5000c281ffeffe610fffffffc0003bd97fb7ff7f7b, 0x4000c281ffeffe610fffffffc0003bd97fb7ff7f7b,
  0x180008000000000000000028000000100004001800, 0x8000010000000040028000000300000001800,
  0x1ffef000000000000000000000000000048, 0x8000000000000040028000000300008000800,
  0x1ffeffe610fe009c020003398001214664a, 0x8000000000000040028000000100008000800,
  0x8000000000000040028000000100000000800, 0x1fded000000000000000000000000040048, 0x8000800,
  0x100000000000000000000000000000000004000000, 0x1ffed000000000000000000000000040048, 0x100,
  0x5000020000000001031ff7ffc00008500024100800, 0x800000000000002000000, 0x20,
  0x5000020000000001031ff7ffc00008400024100900, 0x1ffe3000000000000000011000000040248,
  0x6000000000000000000000000000, 0x5000020000000001031ff7ffc00008500024100910,
  0x20000000000000000000000000000000000000, 0x5000020000000001031fffffc00008500026100800,
  0x1fde100000000000000001000000004024a, 0x1ffe300000000000000001000000004024a,
  0x5000020000000001031ff7ffc00008400024100910, 0x1ffef00000000000000001100000004024a,
  0x5000020000000001031fffffc00008500026100910, 0xc881fffffe610fe409e8000037b9ff9ffffeeb,
  0xc881fffffe610fe409e8000037b9ff9fff7eeb, 0x1ffef00600c00000000001110000004025a,
  0x5000020000000001031fffffc00008500026100110, 0x4000020000000001031ff7ffc00008500020100110,
  0x1ffef000000000000000011000000040248, 0x4000020000000001031ff7ffc00008708024101910,
  0x5000020000000001031ff7ffc00008500024101910, 0x5000020000000001031ff7ffc00008500064100910,
  0x4000020000000001031ff7ffc00008500004100910, 0x4000020000000001031ff7ffc00008508028100910,
  0x4000120000000001031ff7ffc00008500020100d10, 0x20000000000, 0x40000000000]

/-- The sets of tokens 192 to 255. -/
def sets3 : Array Nat := #[
  0x5000020000000001031ff7ffc00008500024100110, 0xc081ffeffe610fe009c00000339f7f97ff7e6b,
  0x4000020000000001031ff7ffc00008700020100110, 0x1800c081ffeffe610fe009c0000033997f97ff7e6b,
  0x800c081ffeffe610fe009c0000033997f97ff7e6b, 0x4000020000000001031ff7ffc00008508020100110,
  0x4000020000000001031ff7ffc00008500060100110, 0x4000020000000001031ff7ffc00008500000100110,
  0xc081ffeffe610fe009c0000033997f97ff726b, 0xc081ffeffe610fe009c0000033997f9fff766b,
  0xc081ffeffe610fe009c0000033997f97df766b, 0x200000, 0xc081ffeffe610fe009c0000033997f93ff766b,
  0xc081ffeffe610fe009c00000339d7f97ff766b, 0xc081ffeffe610fe009c0000033d97f97ff766b,
  0x1000c081ffeffe610fe009c0000033997f97ff766b, 0x800000000000000000000000000000000000000,
  0xc081ffeffe610fe009c0000033987f97df664a, 0x40000000000000000000000,
  0x881fffffe610fe409e820003ff8801a147eca, 0x1fc20000000000000000000000000040242,
  0x80000000000000000000000000000000000000000, 0x801fffffe610fe409e8000037b8801a147eca,
  0x4000020000000001031fffffc00008500022100110, 0x4000020000000001031fffffc00008708026101910,
  0x5000020000000001031fffffc00008400026100910, 0x5000020000000001031fffffc00008500026101910,
  0x5000020000000001031fffffc00008500066100910, 0x4000020000000001031fffffc00008500006100910,
  0x4000020000000001031fffffc00008400006100910, 0x4000120000100001031fffffdfffc870802e101d90,
  0x8000000000000000000000000000000000000, 0x4000120000100001031fffffdfffc870806e101d90,
  0x4000020000000001031fffffc0000850802a100910, 0x4000120000000001031fffffc00008500022100d10,
  0x5000020000000001031fffffc00008400026100110, 0x4000020000000001031fffffc00008700022100110,
  0x4000120000000001031fffffdfffc870806e101d90, 0x4000020000000001031ff7d7c00000000020100110,
  0x8000000000000, 0x4000020000000001031bf7d7c00000208024101110,
  0x4000120000000001031fffffc0000870806e101d10, 0x81ffeffe610fe001c020003398001014664a,
  0x4000020000000001031ff7d7c00008000022100110, 0x28000000100000000000,
  0x5000020000000001031bf7d7c00000000024101110, 0x180008000000000000000000000000000004000000,
  0x4000020000000001031bf7d7c00008208026101110, 0x40028000000100000000800,
  0x5000020000000001031bf7d7c00000000064100110, 0x4000020000000001031fffffc00008508022100110,
  0x4000020000000001031fffffc00008500062100110, 0x4000020000000001031fffffc00008500002100110,
  0x81ffef7e610fe009c020003398001214664a, 0x10000000000000000000008000000800,
  0x5000020000000001031bf7d7c00008000026101110, 0x4000020000000001031fffffc00008400002100110,
  0x81ffeffe610fe009c0200033d8001a14664a, 0x8000000800,
  0x4000020000000001031bf7d7c00000008028100110, 0x4000020000000001031fffd7c00008400022100110,
  0x180008000000000000000000000000000004001800, 0x8000010000000000028000000300000000800,
  0x5000020000000001031bf7d7c00008000066100110]

/-- The sets of tokens 256 to 319. -/
def sets4 : Array Nat := #[
  0x4000020000000001031bffd7c00008608026101110, 0x5000020000000001031bf7d7c00000000024100110,
  0x4000120000000001031bf7d7c00000000020100510, 0x4000020000000001031ff7d7c00000008020100910,
  0x8000000000000000028000000100008000000, 0x1ffef7e610fe009c020003318001214664a,
  0x8000000000000000000000000000008000000, 0x81ffeffe610fe009c020003398001a14664a,
  0x5000020000000001031bffd7c00008400026101110, 0x8000000000000000000000000200000000800,
  0x4000020000000001031bf7d7c0000800802a100110, 0x5000020000000001031fffffdfffc8500066101990,
  0x5000020000000001031bf7d7c00008000026100110, 0x40028000000100000000000,
  0x8000000000000000000000000000000000800, 0x4000020000000001031fffffdfffc8500022101990,
  0x5000020000000001031bffd7c00008400066100110, 0x4000120000000001031bf7d7c00008000022100510,
  0x4000020000000001031bf7d7c00000008020100110, 0x4000020000000001031bf7d7c00000200020100110,
  0x4000020000000001031bf7d7c00000000060100110, 0x8000000000000000028000000300000000800,
  0x4000020000000001031ff7d7c00000000020100910, 0x8000000000000000028000000100000001000,
  0x81ffeffe610fe009c020003398001214664a, 0x4000020000000001031bffd7c0000840802a100110,
  0x8000010000000000000000000200000000800, 0x4000020000000001031fffffdfffc8508062100190,
  0x5000020000000001031bffd7c00008400026100110, 0x4000020000000001031ff7d7c00008000022100910,
  0x28000000100000001000, 0x5000020000000001031fffffc00008500066101910,
  0x4000120000000001031bffd7c00008400022100510, 0x4000020000000001031bf7d7c00000000020100110,
  0x4000020000000001031bf7d7c00008008022100110, 0x4000020000000001031bf7d7c00008200022100110,
  0x4000020000000001031bf7d7c00008000062100110, 0x4000020000000001031bf7d7c00008000022100110,
  0x4000020000000001031fffffdfffc8700022100990, 0x8000010000000000000000000000000000000,
  0x4000020000000001031fffd7c00008400022100910, 0x5000020000000001031fffffdfffc8500026100190,
  0x4000020000000001031bffd7c00008408022100110, 0x4000020000000001031bffd7c00008600022100110,
  0x4000020000000001031bffd7c00008400062100110, 0x4000800,
  0x80000000000000000000000000000000000001000, 0x4000020000000001031fffffc00008700002100110,
  0x4000020000000001031bffd7c00008400022100110, 0x4000020000000001031fffffdfffc8700022100190,
  0x1fc0000000000000000001000000004024a, 0x1000000000000000000000000000000000000,
  0x180000000010000000000800000000008006000000, 0x1fc2000000000000000001000000004024a,
  0x4000120000000000031ff7ffc0000020806c101d10, 0x58000a0000100001031fffffc000085080e6301d10,
  0x180000000010000000000800000000008006001800, 0x40001a0000000001031ff7ffc0000830806c101d10,
  0x40001a0000000001031ff7ffc0000830806e101d10, 0x2000000000000000000000000000000000000000,
  0x4000120000000000031fffffc0000020806e101d10, 0x40001a0000100001031fffffc0000870806e101d10,
  0x40201a0000000001031fffffc0000870806e101d10, 0x40001a0000000001031ff7ffc0000870806e101d10]

/-- The sets of tokens 320 to 383. -/
def sets5 : Array Nat := #[
  0x40001a0000000001031fffffc0000830806c101d10, 0x40001a0000000001031fffffc0000870806e101d10,
  0x4000120000000001031fffffc00008708026101d10, 0x8000010000000000000000000000008000000,
  0x4000120000000000031fffffc0000870806e101d10, 0x4000120000000001031fffffc0000870806c101d10,
  0x4000120000000001031fffd7c0000870806e101d10, 0x5800020000000001031fffffc000081000e6301910,
  0x5800020000000001031fffffc000085000e6301910, 0x4000120000000001031bffd7c0000860802e101510,
  0x4000120000000001031bffd7c0000020806e101510, 0x4000120000000001031bffd7c0000860806e101510,
  0x4000120000000001031fffffc0000830806e101910, 0x4000120000000001031fffffc0000870806e101910,
  0x40001a0000000001031fffffc0000830806e101d10, 0x40001a0000000001031fffffc0000860806e101d10,
  0x40001a0000000001031ffff7c0000870806e101d10, 0x8000000000000000028000000000000000000,
  0x4000120000000001031fffd7c0000860806e101d10, 0x5000020000000000031ff7ffc00000000064101910,
  0x4000120000000001031fffffc0000870802e101d10, 0x5800020000000001031fffffc000085000e6301d10,
  0x100000000010000000000800000000008006100880, 0x1fc2c00000000000000001100000004024a,
  0x1ffe300000000000000001100000004024a, 0x208008001800, 0x10000000000000000000000000000080,
  0x4800020000000001031fffffc000085000e6301910, 0x50000a0000000001031ff7ffc00008100064101910,
  0x50000a0000000001031ff7ffc00008100066101910, 0x300000000000000000010,
  0x100000000000000208004001800, 0x161000000000000020000000, 0x400000000000000000,
  0x800000000000000000, 0x7000000000000000000, 0x10000000000000000000, 0x400000000000000000000,
  0x1e000000000000000000000, 0x80000000000000000000000, 0x2000000000000000000000000000000000000,
  0x400000000000000000000000000000000000000000, 0x4000020000000001001ff038c00000208024101900,
  0x4000020000000001001ff3ffc00000208024101910, 0x400002000000000100080000c00000208004101900,
  0x400002000000000100080000800000208004101900, 0x4000020000000001001ff03fc00000208024101900,
  0x400002000000000100080038c00000208004101900, 0x400002000000000100080030c00000208004101900,
  0x400002000000000100080020c00000208004101900, 0x4000020000000001001ff0ffc00000208024101900,
  0x4000000000000001001ff3ffc00000208024001810, 0x40000200000000010009e038c00000208004101900,
  0x400002000000000100080000000000208004101900, 0x4000020000000001001ff7ffc00000208024101910,
  0x4000000000000001001ff7ffc00000208024001810, 0x4000020000000001031ff7ffc00000208024101910,
  0x5000020000000000031fffffc00000000066101910, 0x5000020000000001001ff7ffc00000000024101910,
  0x5000000000000001001ff7ffc00000000024001810, 0x100000000000000100000000000000000004001800,
  0x5000020000000001031ff7ffc00000000024101910, 0x5000020000000001001ff038c00000000024101900,
  0x58000a0000000001031fffffc00008500066101910]

/-- The sets of tokens 384 to 447. -/
def sets6 : Array Nat := #[
  0x5000020000000001001ff3ffc00000000024101910, 0x500002000000000100080000c00000000004101900,
  0x500002000000000100080000800000000004101900, 0x5000020000000001001ff03fc00000000024101900,
  0x500002000000000100080038c00000000004101900, 0x500002000000000100080030c00000000004101900,
  0x500002000000000100080020c00000000004101900, 0x5000020000000001001ff0ffc00000000024101900,
  0x5000000000000001001ff3ffc00000000024001810, 0x50000200000000010009e038c00000000004101900,
  0x500002000000000100080000000000000004101900, 0x1fdec00000000000000001100000004024a,
  0x50200a0000000001031fffffc00008500066101910, 0x50000a0000000001031ff7ffc00008500066101910,
  0x50000a0000000001031fffffc00008100064101910, 0x4000020000000001031fffffc0000870802e101910,
  0x1000000000000000000000000000, 0x5000020000000001031bffd7c00008400066101110,
  0x10000000000000000000208008001880, 0x50000a0000000001031fffffc00008500066101910, 0x208004001800,
  0x100000000000000100000000000000000044000800, 0x5000020000000001001ff038c00000000064100900,
  0x5000020000000001001ff3ffc00000000064100910, 0x500002000000000100080000c00000000044100900,
  0x500002000000000100080000800000000044100900, 0x5000020000000001001ff03fc00000000064100900,
  0x500002000000000100080038c00000000044100900, 0x500002000000000100080030c00000000044100900,
  0x500002000000000100080020c00000000044100900, 0x5000020000000001001ff0ffc00000000064100900,
  0x5000000000000001001ff3ffc00000000064000810, 0x50000200000000010009e038c00000000044100900,
  0x500002000000000100080000000000000044100900, 0x5000020000000001001ff7ffc00000000064100910,
  0x5000000000000001001ff7ffc00000000064000810, 0x5000020000000001031ff7ffc00000000064100910,
  0x5000020000000000031fffffc00008500066101910, 0x5000020000000001031fffffc00008500064101910,
  0x10000000000800000000008002000000, 0x180000000010000000000800000000008006101880,
  0x181ffef00600c00000000001110000004025a, 0x10000000000000000000008000000880,
  0x5000020000000001031fffd7c00008500066101910, 0x80200000,
  0x4000020000000001031fffffc00008500026100910, 0x4000020000000001001ff7ffc00000008028100910,
  0x4000000000000001001ff7ffc00000008028000810, 0x100000000000000008008000800,
  0x50000a0000000001031fffffc00008100066101910, 0x50000a0000000001031fffffc00008400066101910,
  0x4000020000000001031ff7ffc00000008028100910, 0x50000a0000000001031ffff7c00008500066101910,
  0x5000020000000001031fffd7c00008400066101910, 0x4000020000000001001ff038c00000008028100900,
  0x4000020000000001001ff3ffc00000008028100910, 0x400002000000000100080000c00000008008100900,
  0x400002000000000100080000800000008008100900, 0x4000020000000001001ff03fc00000008028100900,
  0x400002000000000100080038c00000008008100900, 0x400002000000000100080030c00000008008100900,
  0x400002000000000100080020c00000008008100900, 0x4000020000000001001ff0ffc00000008028100900,
  0x4000000000000001001ff3ffc00000008028000810]

/-- The sets of tokens 448 to 511. -/
def sets7 : Array Nat := #[
  0x40000200000000010009e038c00000008008100900, 0x400002000000000100080000000000008008100900,
  0x5000020000000001031bffd7c00000000066101110, 0x4000020000000001031fffffc00008500066101910,
  0x100000000000000000000000000000000044000800, 0x161000000000000000000000,
  0x4000020000000001031bffd7c00008608062100110, 0x4000020000000001031fffd7c00000000022100110,
  0x4000020000000001031fffffc00008500022101910, 0x8000000080, 0x28000000100000001800,
  0x10000000000100000000000000000000000c00, 0x4000120000000001001ff038c00000000020100d00,
  0x4000120000000001001ff3ffc00000000020100d10, 0x400012000000000100080000c00000000000100d00,
  0x400012000000000100080000800000000000100d00, 0x4000120000000001001ff03fc00000000020100d00,
  0x400012000000000100080038c00000000000100d00, 0x400012000000000100080030c00000000000100d00,
  0x400012000000000100080020c00000000000100d00, 0x4000120000000001001ff0ffc00000000020100d00,
  0x4000100000000001001ff3ffc00000000020000c10, 0x40001200000000010009e038c00000000000100d00,
  0x400012000000000100080000000000000000100d00, 0x4000120000000001001ff7ffc00000000020100d10,
  0x4000100000000001001ff7ffc00000000020000c10, 0x4000120000000001031ff7ffc00000000020100d10,
  0x10000000000000000000008000000000, 0x10000000000000000000008008000880,
  0x10000000000000000000000000000000000c00, 0x28000000300000000800,
  0x100000000000000000000000000000000004000800, 0x4000020000000001031fffd7c00000008022100910,
  0x8000000000000000028000000100008001000, 0x4000020000000001031fffd7c00008408022100910,
  0x180000000000000000000000000000000004001800, 0x80000000000000000000000000000000004001800,
  0x28000000100008001000, 0x4000020000000001031fffffc00008508062100110,
  0x100000000000000100000000000000000004000000, 0x5000020000000001001ff038c00000000024100100,
  0x5000020000000001001ff3ffc00000000024100110, 0x500002000000000100080000c00000000004100100,
  0x500002000000000100080000800000000004100100, 0x5000020000000001001ff03fc00000000024100100,
  0x500002000000000100080038c00000000004100100, 0x500002000000000100080030c00000000004100100,
  0x500002000000000100080020c00000000004100100, 0x5000020000000001001ff0ffc00000000024100100,
  0x5000000000000001001ff3ffc00000000024000010, 0x50000200000000010009e038c00000000004100100,
  0x500002000000000100080000000000000004100100, 0x5000020000000001001ff7ffc00000000024100110,
  0x5000000000000001001ff7ffc00000000024000010, 0x5000020000000001031ff7ffc00000000024100110,
  0x5000020000000000031fffffc00008500026100910, 0x4000020000000000031fffffc00008500022100110,
  0x40000080, 0x100000000000000008000000000, 0x4000020000000001001ff038c00000008020100100,
  0x4000020000000001001ff3ffc00000008020100110, 0x400002000000000100080000c00000008000100100,
  0x400002000000000100080000800000008000100100, 0x4000020000000001001ff03fc00000008020100100]

/-- The sets of tokens 512 to 575. -/
def sets8 : Array Nat := #[
  0x400002000000000100080038c00000008000100100, 0x400002000000000100080030c00000008000100100,
  0x400002000000000100080020c00000008000100100, 0x4000020000000001001ff0ffc00000008020100100,
  0x4000000000000001001ff3ffc00000008020000010, 0x40000200000000010009e038c00000008000100100,
  0x400002000000000100080000000000008000100100, 0x100000000000000200000000000,
  0x4000020000000001001ff038c00000200020100100, 0x4000020000000001001ff3ffc00000200020100110,
  0x400002000000000100080000c00000200000100100, 0x400002000000000100080000800000200000100100,
  0x4000020000000001001ff03fc00000200020100100, 0x400002000000000100080038c00000200000100100,
  0x400002000000000100080030c00000200000100100, 0x400002000000000100080020c00000200000100100,
  0x4000020000000001001ff0ffc00000200020100100, 0x4000000000000001001ff3ffc00000200020000010,
  0x40000200000000010009e038c00000200000100100, 0x400002000000000100080000000000200000100100,
  0x4000020000000001001ff7ffc00000008020100110, 0x4000000000000001001ff7ffc00000008020000010,
  0x4000020000000001031ff7ffc00000008020100110, 0x4000020000000001001ff7ffc00000200020100110,
  0x4000000000000001001ff7ffc00000200020000010, 0x4000020000000001031ff7ffc00000200020100110,
  0x100000000000000000040000000, 0x4000020000000001001ff038c00000000060100100,
  0x4000020000000001001ff3ffc00000000060100110, 0x400002000000000100080000c00000000040100100,
  0x400002000000000100080000800000000040100100, 0x4000020000000001001ff03fc00000000060100100,
  0x400002000000000100080038c00000000040100100, 0x400002000000000100080030c00000000040100100,
  0x400002000000000100080020c00000000040100100, 0x4000020000000001001ff0ffc00000000060100100,
  0x4000000000000001001ff3ffc00000000060000010, 0x40000200000000010009e038c00000000040100100,
  0x400002000000000100080000000000000040100100, 0x4000020000000001001ff7ffc00000000060100110,
  0x4000000000000001001ff7ffc00000000060000010, 0x4000020000000001031ff7ffc00000000060100110,
  0x100000000010000000000000000000008004100880, 0x1fded00000000000000001100000004024a,
  0x4000020000000000031fffffc00008500020100110, 0x880, 0x981ffff80600c000028000011700000040a5a,
  0x4000020000000001001ff038c00000000020100100, 0x4000020000000001001ff3ffc00000000020100110,
  0x400002000000000100080000c00000000000100100, 0x400002000000000100080000800000000000100100,
  0x4000020000000001001ff03fc00000000020100100, 0x400002000000000100080038c00000000000100100,
  0x400002000000000100080030c00000000000100100, 0x400002000000000100080020c00000000000100100,
  0x4000020000000001001ff0ffc00000000020100100, 0x4000000000000001001ff3ffc00000000020000010,
  0x40000200000000010009e038c00000000000100100, 0x400002000000000100080000000000000000100100,
  0x4000020000000001001ff7ffc00000000020100110, 0x4000000000000001001ff7ffc00000000020000010,
  0x4000020000000001031ff7ffc00000000020100110, 0x181ffef80600c0000c000001110000004125a,
  0x181ffef80600c00000000001110000004025a]

/-- The sets of tokens 576 to 639. -/
def sets9 : Array Nat := #[
  0x10000181ffef80600c0000c000001110000404125a, 0x181ffef80600c0000c000001110000404125a,
  0x10000000000800000000000002000000, 0x1fdc000000000000000001000000004024a,
  0x181ffef80600c00080000001150000204025a, 0x1fde000000000000000001000000004024a,
  0x1fde100000000000000001100000004024a, 0x1ffe100000000000000001000000004024a,
  0x1ffed00000000000000001100000004024a, 0x8000010000000040028000004308008001c80,
  0x800001000000004082800000c70800a001d80, 0x800000008000002000000,
  0x8000010000000040028000004308008001d80, 0x8000000000000040028000004308008001c80,
  0x800001000000004002800000c708008001d80, 0x8000010000000040828000004308008001d80,
  0x800001000000004002800000470800a001d80, 0x180008000010000000000828000000108006111c80,
  0x180008000000000000000028000000100004001c80, 0x2008000010000000040028000004308008001d80,
  0x8000010000000040028000004708008001d80, 0x8000010000000040028000004208008001d80,
  0x10000000040000000004208008001d80, 0x180008000000000000000828000008500006001c80,
  0x2100008000000000000000028000000100004000c00, 0x8800, 0x20000000000000000000000000002,
  0x180000000010000000000000000000008004000000, 0x40000000000000000000800,
  0x8000000000000040020000004308008001c80, 0x40000000004308008001c80, 0x40028000004308008001c80,
  0x180000000000000000000000000000000004001c80, 0x180008000000000000000028000008500004001c80,
  0x180008000000000000000828000000100004001c80, 0x180008000000000000000028000000500006001c80,
  0x2100008000000000000000828000008500006000c00, 0x4200008000c80,
  0x8000010000000040028000000300008001800, 0x182008000000000000000028000000100004001c80,
  0x180008000000000000000028000000500004001c80, 0x180008000000000000000028000000100006001c80,
  0x8000000000000000028000000300000000100, 0x22, 0x2040,
  0x180000000010000000000000000000008004001800, 0x180008000000000000000028000000000004001c80,
  0x180008000000000000000020000000100004001c80, 0x180000000000000000000000000000100004001c80,
  0x180000000000000000000028000000100004001c80, 0x2100000000000000000000000000000000004000c00,
  0x2100008000000000000000028000008500004000c00, 0x2100008000000000000000828000000100004000c00,
  0x2100008000000000000000028000000500006000c00, 0x10000000000000000000000000000000000000,
  0x60000000, 0x180000000000000000000000000000000004001c00,
  0x2102008000000000000000028000000100004000c00, 0x2100008000000000000000028000000500004000c00,
  0x10000000000000000000208068001880, 0x10000000000000000000000000100000,
  0x2100000000000000000000000000000100004000c00, 0x2100008000000000000000028000000000004000c00,
  0x2100008000000000000000020000000100004000c00]

/-- The sets of tokens 640 to 697. -/
def sets10 : Array Nat := #[
  0x2100000000000000000000028000000100004000c00, 0x40008000000000000000028000000300000000d00,
  0x200000000000000000000000000000000000000000, 0x40000000000000000000000000,
  0x200000000000000000000000000, 0x100000000000000000000000000000000000000,
  0x200000000000000000000000000000000000000, 0x400000000000000000000000000000000000000,
  0x8000000000000000028000000300000001900, 0x8000000000000000028000008700000000100,
  0x4000000000000000100000000002, 0x100000000000000000000000000000008064000880,
  0x8000000000000000000000000008000000000, 0x10000000000800000000008002001880,
  0x180000000000000000000000000000008004001c00, 0x180000000000000000000000000000400004001c00,
  0x10000000000000000000300000000800, 0x8000010000000000020000000300000000800,
  0x10000000000028000000300000000800, 0x200000000000000040000000000000000000000000,
  0x4000000000400, 0x10000000000800000000000002001880, 0x10000000000,
  0x2100000000000000000000000000000000004000800, 0x40000000000000000000880,
  0x40000000000000000000c00, 0x40000000000000000000000000000000000000c00,
  0x2100000000000000000000000000000008004000c00, 0x300000000100,
  0x8000000000000000020000000300000000100, 0x28000000300000000100, 0x208004001000, 0x208000001800,
  0x2000000000000000000000000000000000000000000, 0x18000000000000000000000000000002000480,
  0x200000000880, 0x8068000080, 0x40000000000000000000800000000000000000c00,
  0x50000000000000000000000000, 0x60000000000000000000000000, 0x8000,
  0x10000000000000000000000000000000000400, 0x200000000000000300000000000000000000000000,
  0x40000000000000000000400, 0x200000000000000340000000000000000000000000, 0x4008000000400,
  0x800000000400002000000, 0x100000000000000000000000000000000004008000, 0x9800,
  0x4000000000000000000000000000000000000, 0x200008000800,
  0x100000000000000000000000000000000004010000, 0x40008000000000000000000000000000000000400,
  0x800000000000000000000000000, 0x10000000000000000000000000000, 0x8000000000000000000000000000,
  0x400000000000000000000000000, 0x8000000000000000000000000000000000]

/-- The sets of tokens by their numbers. -/
def sets : Array (Array Nat) := #[
  sets0, sets1, sets2, sets3, sets4, sets5, sets6, sets7, sets8, sets9, sets10]

end UiHarness.Syntax.Automaton.Plain
