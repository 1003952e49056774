/-!
# States behind phrases in source with markup

Each number is a list of pairs of twenty-four bits: the lower eight are a phrase, the others the state
that it leads to.
-/

namespace UiHarness.Syntax.Automaton.Markup

/-- The rows of successors 0 to 63. -/
def gotos0 : Array Nat := #[
  0x0,
  0xe24c3000fc213abb603078703078403078203078000e47e03077d03077c03077b07cb7607cb7507cb74030771051d6e07cb690be26607cb640e235b04f85707c95507c95407c95207c95113aa5007cb4f07cb4e07cb4d07cb4c14e14a07cb480ae44707cb46051d45051d4407cb4307184207c94114e03e07c93d03073c07c93b03073a07c93903073707c93614e13407c93314e13007c92f07cb2e06b42d07172c051d2b03062503062403062303062203062103062003061f03061e03061d03061c03061b030619030618030617030616030614030712030711030610000f0f0306080d370703060603060114df00,
  0x1132c30ae9c10ae6c00ae6bf0ae9be0ae6bd0ae6bc13d6b60ae6b30ae6b10ae6b00ae6af0ae6ae0aebad0ae6ac0ae6aa0ae6a90ae6a80ae6a10ae6a00ae99f0ae69e0aea9c0ae99b0b64950add920adc910ac78106277e06277606277506277404e56e0627690c30660627640d3d5e0ecd5d0ed85b04f857062655062654062652086c5106274f06274e06274d06274c0e194a0627480b284706274604e54504e54406274305c34206264115cd3e06263d06263b062639062636150d350e19340626330e193006262f06272e05b42d09de2c04ac2b0e0007,
  0x1153c91152c80e24c30011c213abb60a51890a3c8803078703078403078203078000e47e03077d03077c03077b07cb7607cb7507cb74030771051d6e07cb690be26607cb640d39630d396211506111516011515f11505e0e235b04f85707c95507c95407c95207cc5113aa5007cb4f07cb4e07cb4d07cb4c11514b14e64a07cb480ae44707cb46051d45051d4407cb4307184207c94114e03e07c93d03073c07c93b03073a07c93903073707c93614e63407c93311503214e63007c92f07cb2e06b42d07172c051d2b03062503062403062303062203062103062003061f03061e03061d03061c03061b03061903061803061703061603061403071203071103061000110f0306080d3707030606030601,
  0x1153c91152c80e24c30013c213abb60a51890a3c8803078703078403078203078000e47e03077d03077c03077b07cb7607cb7507cb74030771051d6e07cb690be26607cb640d39630d396211506111516011515f11505e0e235b04f85707c95507c95407c95207cc5113aa5007cb4f07cb4e07cb4d07cb4c11514b14e64a07cb480ae44707cb46051d45051d4407cb4307184207c94114e03e07c93d03073c07c93b03073a07c93903073707c93614e63407c93311503214e63007c92f07cb2e06b42d07172c051d2b03062503062403062303062203062103062003061f03061e03061d03061c03061b03061903061803061703061603061403071203071103061000130f0306080d3707030606030601,
  0x1153c91344c80e24c30017c213abb60a51890a3c8803078703078403078203078000e47e03077d03077c03077b07cb7607cb7507cb74030771051d6e07cb690be26607cb640d39630d396211506113436013435f11505e0e235b04f85707c95507c95407c95207cc5113aa5007cb4f07cb4e07cb4d07cb4c13434b14e64a07cb480ae44707cb46051d45051d4407cb4307184207c94114e03e07c93d03073c07c93b03073a07c93903073707c93614e63407c93311503214e63007c92f07cb2e06b42d07172c051d2b03062503062403062303062203062103062003061f03061e03061d03061c03061b03061903061803061703061603061403071203071103061000170f0306080d3707030606030601,
  0xe24c30009c213abb603078703078403078203078000e47e03077d03077c03077b07cb7607cb7507cb74030771051d6e07cb690be26607cb640e235b04f85707c95507c95407c95207c95113aa5007cb4f07cb4e07cb4d07cb4c14e14a07cb480ae44707cb46051d45051d4407cb4307184207c94114e03e07c93d03073c07c93b03073a07c93903073707c93614e13407c93314e13007c92f07cb2e06b42d07172c051d2b03062503062403062303062203062103062003061f03061e03061d03061c03061b03061903061803061703061603061403071203071103061000090f0306080d3707030606030601,
  0xe24c3000bc213abb603078703078403078203078000e47e03077d03077c03077b07cb7607cb7507cb74030771051d6e07cb690be26607cb640e235b04f85707c95507c95407c95207c95113aa5007cb4f07cb4e07cb4d07cb4c14e14a07cb480ae44707cb46051d45051d4407cb4307184207c94114e03e07c93d03073c07c93b03073a07c93903073707c93614e13407c93314e13007c92f07cb2e06b42d07172c051d2b03062503062403062303062203062103062003061f03061e03061d03061c03061b030619030618030617030616030614030712030711030610000b0f0306080d3707030606030601,
  0xe24c3000dc213abb603078703078403078203078000e47e03077d03077c03077b07cb7607cb7507cb74030771051d6e07cb690be26607cb640e235b04f85707c95507c95407c95207c95113aa5007cb4f07cb4e07cb4d07cb4c14e14a07cb480ae44707cb46051d45051d4407cb4307184207c94114e03e07c93d03073c07c93b03073a07c93903073707c93614e13407c93314e13007c92f07cb2e06b42d07172c051d2b03062503062403062303062203062103062003061f03061e03061d03061c03061b030619030618030617030616030614030712030711030610000d0f0306080d3707030606030601,
  0xe24c30010c213abb603078703078403078203078000e47e03077d03077c03077b07cb7607cb7507cb74030771051d6e07cb690be26607cb640e235b04f85707c95507c95407c95207c95113aa5007cb4f07cb4e07cb4d07cb4c14e14a07cb480ae44707cb46051d45051d4407cb4307184207c94114e03e07c93d03073c07c93b03073a07c93903073707c93614e13407c93314e13007c92f07cb2e06b42d07172c051d2b03062503062403062303062203062103062003061f03061e03061d03061c03061b03061903061803061703061603061403071203071103061000100f0306080d3707030606030601,
  0xe24c30011c213abb603078703078403078203078000e47e03077d03077c03077b07cb7607cb7507cb74030771051d6e07cb690be26607cb640e235b04f85707c95507c95407c95207c95113aa5007cb4f07cb4e07cb4d07cb4c14e14a07cb480ae44707cb46051d45051d4407cb4307184207c94114e03e07c93d03073c07c93b03073a07c93903073707c93614e13407c93314e13007c92f07cb2e06b42d07172c051d2b03062503062403062303062203062103062003061f03061e03061d03061c03061b03061903061803061703061603061403071203071103061000110f0306080d3707030606030601,
  0xe24c30015c213abb603078703078403078203078000e47e03077d03077c03077b07cb7607cb7507cb74030771051d6e07cb690be26607cb640e235b04f85707c95507c95407c95207c95113aa5007cb4f07cb4e07cb4d07cb4c14e14a07cb480ae44707cb46051d45051d4407cb4307184207c94114e03e07c93d03073c07c93b03073a07c93903073707c93614e13407c93314e13007c92f07cb2e06b42d07172c051d2b03062503062403062303062203062103062003061f03061e03061d03061c03061b03061903061803061703061603061403071203071103061000150f0306080d3707030606030601,
  0xe24c30013c213abb603078703078403078203078000e47e03077d03077c03077b07cb7607cb7507cb74030771051d6e07cb690be26607cb640e235b04f85707c95507c95407c95207c95113aa5007cb4f07cb4e07cb4d07cb4c14e14a07cb480ae44707cb46051d45051d4407cb4307184207c94114e03e07c93d03073c07c93b03073a07c93903073707c93614e13407c93314e13007c92f07cb2e06b42d07172c051d2b03062503062403062303062203062103062003061f03061e03061d03061c03061b03061903061803061703061603061403071203071103061000130f0306080d3707030606030601,
  0xe24c30017c213abb603078703078403078203078000e47e03077d03077c03077b07cb7607cb7507cb74030771051d6e07cb690be26607cb640e235b04f85707c95507c95407c95207c95113aa5007cb4f07cb4e07cb4d07cb4c14e14a07cb480ae44707cb46051d45051d4407cb4307184207c94114e03e07c93d03073c07c93b03073a07c93903073707c93614e13407c93314e13007c92f07cb2e06b42d07172c051d2b03062503062403062303062203062103062003061f03061e03061d03061c03061b03061903061803061703061603061403071203071103061000170f0306080d3707030606030601,
  0xe24c30019c213abb603078703078403078203078000e47e03077d03077c03077b07cb7607cb7507cb74030771051d6e07cb690be26607cb640e235b04f85707c95507c95407c95207c95113aa5007cb4f07cb4e07cb4d07cb4c14e14a07cb480ae44707cb46051d45051d4407cb4307184207c94114e03e07c93d03073c07c93b03073a07c93903073707c93614e13407c93314e13007c92f07cb2e06b42d07172c051d2b03062503062403062303062203062103062003061f03061e03061d03061c03061b03061903061803061703061603061403071203071103061000190f0306080d3707030606030601,
  0xe24c3001ec213abb603078703078403078203078000e47e03077d03077c03077b07cb7607cb7507cb74030771051d6e07cb690be26607cb640e235b04f85707c95507c95407c95207c95113aa5007cb4f07cb4e07cb4d07cb4c14e14a07cb480ae44707cb46051d45051d4407cb4307184207c94114e03e07c93d03073c07c93b03073a07c93903073707c93614e13407c93314e13007c92f07cb2e06b42d07172c051d2b03062503062403062303062203062103062003061f03061e03061d03061c03061b030619030618030617030616030614030712030711030610001e0f0306080d3707030606030601,
  0xe24c3001bc213abb603078703078403078203078000e47e03077d03077c03077b07cb7607cb7507cb74030771051d6e07cb690be26607cb640e235b04f85707c95507c95407c95207c95113aa5007cb4f07cb4e07cb4d07cb4c14e14a07cb480ae44707cb46051d45051d4407cb4307184207c94114e03e07c93d03073c07c93b03073a07c93903073707c93614e13407c93314e13007c92f07cb2e06b42d07172c051d2b03062503062403062303062203062103062003061f03061e03061d03061c03061b030619030618030617030616030614030712030711030610001b0f0306080d3707030606030601,
  0xeabc313abb603078703078403078203078009007e03077d03077c03077b07cb7607cb7507cb74030771051d6e07cb690be26607cb640e235b04f85707c95507c95407c95207c95113aa5007cb4f07cb4e07cb4d07cb4c14e14a07cb480ae44707cb46051d45051d4407cb4307184207c94114e03e07c93d03073c07c93b03073a07c93903073707c93614e13407c93314e13007c92f07cb2e06b42d07172c051d2b03062503062403062303062203062103062003061f03061e03061d03061c03061b03061903061803061703061603061403071203071103061014ec0f0306080d3707030606030601,
  0xe24c313abb603078703078403078203078000e47e03077d03077c03077b07cb7607cb7507cb74030771051d6e07cb690be26607cb640e235b04f85707c95507c95407c95207c95113aa5007cb4f07cb4e07cb4d07cb4c14e14a07cb480ae44707cb46051d45051d4407cb4307184207c94114e03e07c93d03073c07c93b03073a07c93903073707c93614e13407c93314e13007c92f07cb2e06b42d07172c051d2b03062503062403062303062203062103062003061f03061e03061d03061c03061b03061903061803061703061603061403071203071103061003120f0306080d3707030606030601,
  0xe24c313abb603078703078403078203078000e47e03077d03077c03077b07cb7607cb7507cb74030771051d6e07cb690be26607cb640e235b04f85707c95507c95407c95207c95113aa5007cb4f07cb4e07cb4d07cb4c14e14a07cb480ae44707cb46051d45051d4407cb4307184207c94114e03e07c93d03073c07c93b03073a07c93903073707c93614e13407c93314e13007c92f07cb2e06b42d07172c051d2b03062503062403062303062203062103062003061f03061e03061d03061c03061b03061903061803061703061603061403071203071103061003160f0306080d3707030606030601,
  0xe24c313abb603078703078403078203078000e47e03077d03077c03077b07cb7607cb7507cb74030771051d6e07cb690be26607cb640e235b04f85707c95507c95407c95207c95113aa5007cb4f07cb4e07cb4d07cb4c14e14a07cb480ae44707cb46051d45051d4407cb4307184207c94114e03e07c93d03073c07c93b03073a07c93903073707c93614e13407c93314e13007c92f07cb2e06b42d07172c051d2b03062503062403062303062203062103062003061f03061e03061d03061c03061b03061903061803061703061603061403071203071103061002f00f0306080d3707030606030601,
  0xe24c313abb603078703078403078203078000e47e03077d03077c03077b07cb7607cb7507cb74030771051d6e07cb690be26607cb640e235b04f85707c95507c95407c95207c95113aa5007cb4f07cb4e07cb4d07cb4c14e14a07cb480ae44707cb46051d45051d4407cb4307184207c94114e03e07c93d03073c07c93b03073a07c93903073707c93614e13407c93314e13007c92f07cb2e06b42d07172c051d2b03062503062403062303062203062103062003061f03061e03061d03061c03061b030619030618030617030616030614030712030711030610031a0f0306080d3707030606030601,
  0xe24c313abb603078703078403078203078000e47e03077d03077c03077b07cb7607cb7507cb74030771051d6e07cb690be26607cb640e235b04f85707c95507c95407c95207c95113aa5007cb4f07cb4e07cb4d07cb4c14e14a07cb480ae44707cb46051d45051d4407cb4307184207c94114e03e07c93d03073c07c93b03073a07c93903073707c93614e13407c93314e13007c92f07cb2e06b42d07172c051d2b03062503062403062303062203062103062003061f03061e03061d03061c03061b030619030618030617030616030614030712030711030610031b0f0306080d3707030606030601,
  0xe24c313abb603078703078403078203078000e47e03077d03077c03077b07cb7607cb7507cb74030771051d6e07cb690be26607cb640e235b04f85707c95507c95407c95207c95113aa5007cb4f07cb4e07cb4d07cb4c14e14a07cb480ae44707cb46051d45051d4407cb4307184207c94114e03e07c93d03073c07c93b03073a07c93903073707c93614e13407c93314e13007c92f07cb2e06b42d07172c051d2b03062503062403062303062203062103062003061f03061e03061d03061c03061b03061903061803061703061603061403071203071103061003340f0306080d3707030606030601,
  0x115acb1159ca1132c30ae9c10ae6c00ae6bf0ae9be0ae6bd0ae6bc14d5b60ae6b30ae6b10ae6b00ae6af0ae6ae0aebad0ae6ac0ae6aa0ae6a90ae6a80ae6a10ae6a00ae99f0ae69e0aea9c0ae99b11939a1193991193981193971193960e43950add920c57910ac78106277e06277606277506277404db6e0627690c30660627640ef15e10c05d10b05b04f857062655062654062652086c5106274f06274e06274d06274c11584b0d3c4a0627480b274706274604db4504db4406274305c342062641154d3e06263d06263b062639062636150d350d3c340626331157310d3c3006262f06272e05b42d07ce2c04e42b0e1707,
  0xe24c313abb603078703078403078203078000e47e03077d03077c03077b07cb7607cb7507cb74030771051d6e07cb690be26607cb640e235b04f85707c95507c95407c95207c95113aa5007cb4f07cb4e07cb4d07cb4c14e14a07cb480ae44707cb46051d45051d4407cb4307184207c94114e03e07c93d03073c07c93b03073a07c93903073707c93614e13407c93314e13007c92f07cb2e06b42d07172c051d2b03062503062403062303062203062103062003061f03061e03061d03061c03061b030619030618030617030616030614030712030711030610034b0f0306080d3707030606030601,
  0xe24c313abb603078703078403078203078000e47e03077d03077c03077b07cb7607cb7507cb74030771051d6e07cb690be26607cb640e235b04f85707c95507c95407c95207c95113aa5007cb4f07cb4e07cb4d07cb4c14e14a07cb480ae44707cb46051d45051d4407cb4307184207c94114e03e07c93d03073c07c93b03073a07c93903073707c93614e13407c93314e13007c92f07cb2e06b42d07172c051d2b03062503062403062303062203062103062003061f03061e03061d03061c03061b03061903061803061703061603061403071203071103061003610f0306080d3707030606030601,
  0xe24c313abb603078703078403078203078000e47e03077d03077c03077b07cb7607cb7507cb74030771051d6e07cb690be26607cb640e235b04f85707c95507c95407c95207c95113aa5007cb4f07cb4e07cb4d07cb4c14e14a07cb480ae44707cb46051d45051d4407cb4307184207c94114e03e07c93d03073c07c93b03073a07c93903073707c93614e13407c93314e13007c92f07cb2e06b42d07172c051d2b03062503062403062303062203062103062003061f03061e03061d03061c03061b030619030618030617030616030614030712030711030610036f0f0306080d3707030606030601,
  0xe24c313abb603078703078403078203078000e47e03077d03077c03077b07cb7607cb7507cb74030771051d6e07cb690be26607cb640e235b04f85707c95507c95407c95207c95113aa5007cb4f07cb4e07cb4d07cb4c14e14a07cb480ae44707cb46051d45051d4407cb4307184207c94114e03e07c93d03073c07c93b03073a07c93903073707c93614e13407c93314e13007c92f07cb2e06b42d07172c051d2b03062503062403062303062203062103062003061f03061e03061d03061c03061b03061903061803061703061603061403071203071103061003700f0306080d3707030606030601,
  0xe24c313abb603078703078403078203078000e47e03077d03077c03077b07cb7607cb7507cb74030771051d6e07cb690be26607cb640e235b04f85707c95507c95407c95207c95113aa5007cb4f07cb4e07cb4d07cb4c14e14a07cb480ae44707cb46051d45051d4407cb4307184207c94114e03e07c93d03073c07c93b03073a07c93903073707c93614e13407c93314e13007c92f07cb2e06b42d07172c051d2b03062503062403062303062203062103062003061f03061e03061d03061c03061b03061903061803061703061603061403071203071103061003710f0306080d3707030606030601,
  0xe24c313abb603078703078403078203078000e47e03077d03077c03077b07cb7607cb7507cb74030771051d6e07cb690be26607cb640e235b04f85707c95507c95407c95207c95113aa5007cb4f07cb4e07cb4d07cb4c14e14a07cb480ae44707cb46051d45051d4407cb4307184207c94114e03e07c93d03073c07c93b03073a07c93903073707c93614e13407c93314e13007c92f07cb2e06b42d07172c051d2b03062503062403062303062203062103062003061f03061e03061d03061c03061b03061903061803061703061603061403071203071103061003780f0306080d3707030606030601,
  0xe24c313abb603078703078403078203078000e47e03077d03077c03077b07cb7607cb7507cb74030771051d6e07cb690be26607cb640e235b04f85707c95507c95407c95207c95113aa5007cb4f07cb4e07cb4d07cb4c14e14a07cb480ae44707cb46051d45051d4407cb4307184207c94114e03e07c93d03073c07c93b03073a07c93903073707c93614e13407c93314e13007c92f07cb2e06b42d07172c051d2b03062503062403062303062203062103062003061f03061e03061d03061c03061b03061903061803061703061603061403071203071103061003790f0306080d3707030606030601,
  0xe24c313abb603078703078403078203078000e47e03077d03077c03077b07cb7607cb7507cb74030771051d6e07cb690be26607cb640e235b04f85707c95507c95407c95207c95113aa5007cb4f07cb4e07cb4d07cb4c14e14a07cb480ae44707cb46051d45051d4407cb4307184207c94114e03e07c93d03073c07c93b03073a07c93903073707c93614e13407c93314e13007c92f07cb2e06b42d07172c051d2b03062503062403062303062203062103062003061f03061e03061d03061c03061b030619030618030617030616030614030712030711030610037a0f0306080d3707030606030601,
  0xe24c313abb603078703078403078203078000e47e03077d03077c03077b07cb7607cb7507cb74030771051d6e07cb690be26607cb640e235b04f85707c95507c95407c95207c95113aa5007cb4f07cb4e07cb4d07cb4c14e14a07cb480ae44707cb46051d45051d4407cb4307184207c94114e03e07c93d03073c07c93b03073a07c93903073707c93614e13407c93314e13007c92f07cb2e06b42d07172c051d2b03062503062403062303062203062103062003061f03061e03061d03061c03061b030619030618030617030616030614030712030711030610037b0f0306080d3707030606030601,
  0xeabc313abb603078703078403078203078009007e03077d03077c03077b07cb7607cb7507cb74030771051d6e07cb690be26607cb640e235b04f85707c95507c95407c95207c95113aa5007cb4f07cb4e07cb4d07cb4c14e14a07cb480ae44707cb46051d45051d4407cb4307184207c94114e03e07c93d03073c07c93b03073a07c93903073707c93614e13407c93314e13007c92f07cb2e06b42d07172c051d2b03062503062403062303062203062103062003061f03061e03061d03061c03061b03061903061803061703061603061403071203071103061003120f0306080d3707030606030601,
  0xeabc313abb603078703078403078203078009007e03077d03077c03077b07cb7607cb7507cb74030771051d6e07cb690be26607cb640e235b04f85707c95507c95407c95207c95113aa5007cb4f07cb4e07cb4d07cb4c14e14a07cb480ae44707cb46051d45051d4407cb4307184207c94114e03e07c93d03073c07c93b03073a07c93903073707c93614e13407c93314e13007c92f07cb2e06b42d07172c051d2b03062503062403062303062203062103062003061f03061e03061d03061c03061b03061903061803061703061603061403071203071103061003160f0306080d3707030606030601,
  0xebbc313abb603078703078403078203078009007e03077d03077c03077b07cb7607cb7507cb74030771051d6e07cb690be26607cb640e235b04f85707c95507c95407c95207c95113aa5007cb4f07cb4e07cb4d07cb4c14e14a07cb480ae44707cb46051d45051d4407cb4307184207c94114e03e07c93d03073c07c93b03073a07c93903073707c93614e13407c93314e13007c92f07cb2e06b42d07172c051d2b03062503062403062303062203062103062003061f03061e03061d03061c03061b030619030618030617030616030614030712030711030610139a0f0306080d3707030606030601,
  0xeabc313abb603078703078403078203078009007e03077d03077c03077b07cb7607cb7507cb74030771051d6e07cb690be26607cb640e235b04f85707c95507c95407c95207c95113aa5007cb4f07cb4e07cb4d07cb4c14e14a07cb480ae44707cb46051d45051d4407cb4307184207c94114e03e07c93d03073c07c93b03073a07c93903073707c93614e13407c93314e13007c92f07cb2e06b42d07172c051d2b03062503062403062303062203062103062003061f03061e03061d03061c03061b030619030618030617030616030614030712030711030610031a0f0306080d3707030606030601,
  0xeabc313abb603078703078403078203078009007e03077d03077c03077b07cb7607cb7507cb74030771051d6e07cb690be26607cb640e235b04f85707c95507c95407c95207c95113aa5007cb4f07cb4e07cb4d07cb4c14e14a07cb480ae44707cb46051d45051d4407cb4307184207c94114e03e07c93d03073c07c93b03073a07c93903073707c93614e13407c93314e13007c92f07cb2e06b42d07172c051d2b03062503062403062303062203062103062003061f03061e03061d03061c03061b030619030618030617030616030614030712030711030610031b0f0306080d3707030606030601,
  0xeabc313abb603078703078403078203078009007e03077d03077c03077b07cb7607cb7507cb74030771051d6e07cb690be26607cb640e235b04f85707c95507c95407c95207c95113aa5007cb4f07cb4e07cb4d07cb4c14e14a07cb480ae44707cb46051d45051d4407cb4307184207c94114e03e07c93d03073c07c93b03073a07c93903073707c93614e13407c93314e13007c92f07cb2e06b42d07172c051d2b03062503062403062303062203062103062003061f03061e03061d03061c03061b03061903061803061703061603061403071203071103061003340f0306080d3707030606030601,
  0x115acb1349ca1132c30ae9c10ae6c00ae6bf0ae9be0ae6bd0ae6bc14d5b60ae6b30ae6b10ae6b00ae6af0ae6ae0aebad0ae6ac0ae6aa0ae6a90ae6a80ae6a10ae6a00ae99f0ae69e0aea9c0ae99b11939a1193991193981193971193960e43950add920c57910ac78106277e06277606277506277404db6e0627690c30660627640ef15e10c05d10b05b04f857062655062654062652086c5106274f06274e06274d06274c13484b0d3c4a0627480b274706274604db4504db4406274305c342062641154d3e06263d06263b062639062636150d350d3c340626331157310d3c3006262f06272e05b42d08942c04e42b0e1707,
  0xeabc313abb603078703078403078203078009007e03077d03077c03077b07cb7607cb7507cb74030771051d6e07cb690be26607cb640e235b04f85707c95507c95407c95207c95113aa5007cb4f07cb4e07cb4d07cb4c14e14a07cb480ae44707cb46051d45051d4407cb4307184207c94114e03e07c93d03073c07c93b03073a07c93903073707c93614e13407c93314e13007c92f07cb2e06b42d07172c051d2b03062503062403062303062203062103062003061f03061e03061d03061c03061b030619030618030617030616030614030712030711030610034b0f0306080d3707030606030601,
  0xeabc313abb603078703078403078203078009007e03077d03077c03077b07cb7607cb7507cb74030771051d6e07cb690be26607cb640e235b04f85707c95507c95407c95207c95113aa5007cb4f07cb4e07cb4d07cb4c14e14a07cb480ae44707cb46051d45051d4407cb4307184207c94114e03e07c93d03073c07c93b03073a07c93903073707c93614e13407c93314e13007c92f07cb2e06b42d07172c051d2b03062503062403062303062203062103062003061f03061e03061d03061c03061b03061903061803061703061603061403071203071103061003610f0306080d3707030606030601,
  0xeabc313abb603078703078403078203078009007e03077d03077c03077b07cb7607cb7507cb74030771051d6e07cb690be26607cb640e235b04f85707c95507c95407c95207c95113aa5007cb4f07cb4e07cb4d07cb4c14e14a07cb480ae44707cb46051d45051d4407cb4307184207c94114e03e07c93d03073c07c93b03073a07c93903073707c93614e13407c93314e13007c92f07cb2e06b42d07172c051d2b03062503062403062303062203062103062003061f03061e03061d03061c03061b030619030618030617030616030614030712030711030610036f0f0306080d3707030606030601,
  0xeabc313abb603078703078403078203078009007e03077d03077c03077b07cb7607cb7507cb74030771051d6e07cb690be26607cb640e235b04f85707c95507c95407c95207c95113aa5007cb4f07cb4e07cb4d07cb4c14e14a07cb480ae44707cb46051d45051d4407cb4307184207c94114e03e07c93d03073c07c93b03073a07c93903073707c93614e13407c93314e13007c92f07cb2e06b42d07172c051d2b03062503062403062303062203062103062003061f03061e03061d03061c03061b03061903061803061703061603061403071203071103061003700f0306080d3707030606030601,
  0xeabc313abb603078703078403078203078009007e03077d03077c03077b07cb7607cb7507cb74030771051d6e07cb690be26607cb640e235b04f85707c95507c95407c95207c95113aa5007cb4f07cb4e07cb4d07cb4c14e14a07cb480ae44707cb46051d45051d4407cb4307184207c94114e03e07c93d03073c07c93b03073a07c93903073707c93614e13407c93314e13007c92f07cb2e06b42d07172c051d2b03062503062403062303062203062103062003061f03061e03061d03061c03061b03061903061803061703061603061403071203071103061003710f0306080d3707030606030601,
  0xeabc313abb603078703078403078203078009007e03077d03077c03077b07cb7607cb7507cb74030771051d6e07cb690be26607cb640e235b04f85707c95507c95407c95207c95113aa5007cb4f07cb4e07cb4d07cb4c14e14a07cb480ae44707cb46051d45051d4407cb4307184207c94114e03e07c93d03073c07c93b03073a07c93903073707c93614e13407c93314e13007c92f07cb2e06b42d07172c051d2b03062503062403062303062203062103062003061f03061e03061d03061c03061b03061903061803061703061603061403071203071103061003780f0306080d3707030606030601,
  0xeabc313abb603078703078403078203078009007e03077d03077c03077b07cb7607cb7507cb74030771051d6e07cb690be26607cb640e235b04f85707c95507c95407c95207c95113aa5007cb4f07cb4e07cb4d07cb4c14e14a07cb480ae44707cb46051d45051d4407cb4307184207c94114e03e07c93d03073c07c93b03073a07c93903073707c93614e13407c93314e13007c92f07cb2e06b42d07172c051d2b03062503062403062303062203062103062003061f03061e03061d03061c03061b03061903061803061703061603061403071203071103061003790f0306080d3707030606030601,
  0xeabc313abb603078703078403078203078009007e03077d03077c03077b07cb7607cb7507cb74030771051d6e07cb690be26607cb640e235b04f85707c95507c95407c95207c95113aa5007cb4f07cb4e07cb4d07cb4c14e14a07cb480ae44707cb46051d45051d4407cb4307184207c94114e03e07c93d03073c07c93b03073a07c93903073707c93614e13407c93314e13007c92f07cb2e06b42d07172c051d2b03062503062403062303062203062103062003061f03061e03061d03061c03061b030619030618030617030616030614030712030711030610037a0f0306080d3707030606030601,
  0xeabc313abb603078703078403078203078009007e03077d03077c03077b07cb7607cb7507cb74030771051d6e07cb690be26607cb640e235b04f85707c95507c95407c95207c95113aa5007cb4f07cb4e07cb4d07cb4c14e14a07cb480ae44707cb46051d45051d4407cb4307184207c94114e03e07c93d03073c07c93b03073a07c93903073707c93614e13407c93314e13007c92f07cb2e06b42d07172c051d2b03062503062403062303062203062103062003061f03061e03061d03061c03061b030619030618030617030616030614030712030711030610037b0f0306080d3707030606030601,
  0x115acb1349ca1132c30ae9c10ae6c00ae6bf0ae9be0ae6bd0ae6bc14d5b60ae6b30ae6b10ae6b00ae6af0ae6ae0aebad0ae6ac0ae6aa0ae6a90ae6a80ae6a10ae6a00ae99f0ae69e0aea9c0ae99b136f9a136f99136f98136f97136f960e43950add920c57910ac78106277e06277606277506277404db6e0627690c30660627640ef15e10c05d10b05b04f857062655062654062652086c5106274f06274e06274d06274c13484b0d3c4a0627480b274706274604db4504db4406274305c342062641154d3e06263d06263b062639062636150d350d3c340626331157310d3c3006262f06272e05b42d08942c04e42b0e1707,
  0xebbc313abb603078703078403078203078009007e03077d03077c03077b07cb7607cb7507cb74030771051d6e07cb690be26607cb640e235b04f85707c95507c95407c95207c95113aa5007cb4f07cb4e07cb4d07cb4c14e14a07cb480ae44707cb46051d45051d4407cb4307184207c94114e03e07c93d03073c07c93b03073a07c93903073707c93614e13407c93314e13007c92f07cb2e06b42d07172c051d2b03062503062403062303062203062103062003061f03061e03061d03061c03061b03061903061803061703061603061403071203071103061003120f0306080d3707030606030601,
  0xebbc313abb603078703078403078203078009007e03077d03077c03077b07cb7607cb7507cb74030771051d6e07cb690be26607cb640e235b04f85707c95507c95407c95207c95113aa5007cb4f07cb4e07cb4d07cb4c14e14a07cb480ae44707cb46051d45051d4407cb4307184207c94114e03e07c93d03073c07c93b03073a07c93903073707c93614e13407c93314e13007c92f07cb2e06b42d07172c051d2b03062503062403062303062203062103062003061f03061e03061d03061c03061b03061903061803061703061603061403071203071103061003160f0306080d3707030606030601,
  0xebbc313abb603078703078403078203078009007e03077d03077c03077b07cb7607cb7507cb74030771051d6e07cb690be26607cb640e235b04f85707c95507c95407c95207c95113aa5007cb4f07cb4e07cb4d07cb4c14e14a07cb480ae44707cb46051d45051d4407cb4307184207c94114e03e07c93d03073c07c93b03073a07c93903073707c93614e13407c93314e13007c92f07cb2e06b42d07172c051d2b03062503062403062303062203062103062003061f03061e03061d03061c03061b030619030618030617030616030614030712030711030610031a0f0306080d3707030606030601,
  0xebbc313abb603078703078403078203078009007e03077d03077c03077b07cb7607cb7507cb74030771051d6e07cb690be26607cb640e235b04f85707c95507c95407c95207c95113aa5007cb4f07cb4e07cb4d07cb4c14e14a07cb480ae44707cb46051d45051d4407cb4307184207c94114e03e07c93d03073c07c93b03073a07c93903073707c93614e13407c93314e13007c92f07cb2e06b42d07172c051d2b03062503062403062303062203062103062003061f03061e03061d03061c03061b030619030618030617030616030614030712030711030610031b0f0306080d3707030606030601,
  0xebbc313abb603078703078403078203078009007e03077d03077c03077b07cb7607cb7507cb74030771051d6e07cb690be26607cb640e235b04f85707c95507c95407c95207c95113aa5007cb4f07cb4e07cb4d07cb4c14e14a07cb480ae44707cb46051d45051d4407cb4307184207c94114e03e07c93d03073c07c93b03073a07c93903073707c93614e13407c93314e13007c92f07cb2e06b42d07172c051d2b03062503062403062303062203062103062003061f03061e03061d03061c03061b03061903061803061703061603061403071203071103061003340f0306080d3707030606030601,
  0xebbc313abb603078703078403078203078009007e03077d03077c03077b07cb7607cb7507cb74030771051d6e07cb690be26607cb640e235b04f85707c95507c95407c95207c95113aa5007cb4f07cb4e07cb4d07cb4c14e14a07cb480ae44707cb46051d45051d4407cb4307184207c94114e03e07c93d03073c07c93b03073a07c93903073707c93614e13407c93314e13007c92f07cb2e06b42d07172c051d2b03062503062403062303062203062103062003061f03061e03061d03061c03061b030619030618030617030616030614030712030711030610034b0f0306080d3707030606030601,
  0xebbc313abb603078703078403078203078009007e03077d03077c03077b07cb7607cb7507cb74030771051d6e07cb690be26607cb640e235b04f85707c95507c95407c95207c95113aa5007cb4f07cb4e07cb4d07cb4c14e14a07cb480ae44707cb46051d45051d4407cb4307184207c94114e03e07c93d03073c07c93b03073a07c93903073707c93614e13407c93314e13007c92f07cb2e06b42d07172c051d2b03062503062403062303062203062103062003061f03061e03061d03061c03061b03061903061803061703061603061403071203071103061003610f0306080d3707030606030601,
  0xebbc313abb603078703078403078203078009007e03077d03077c03077b07cb7607cb7507cb74030771051d6e07cb690be26607cb640e235b04f85707c95507c95407c95207c95113aa5007cb4f07cb4e07cb4d07cb4c14e14a07cb480ae44707cb46051d45051d4407cb4307184207c94114e03e07c93d03073c07c93b03073a07c93903073707c93614e13407c93314e13007c92f07cb2e06b42d07172c051d2b03062503062403062303062203062103062003061f03061e03061d03061c03061b030619030618030617030616030614030712030711030610036f0f0306080d3707030606030601,
  0xebbc313abb603078703078403078203078009007e03077d03077c03077b07cb7607cb7507cb74030771051d6e07cb690be26607cb640e235b04f85707c95507c95407c95207c95113aa5007cb4f07cb4e07cb4d07cb4c14e14a07cb480ae44707cb46051d45051d4407cb4307184207c94114e03e07c93d03073c07c93b03073a07c93903073707c93614e13407c93314e13007c92f07cb2e06b42d07172c051d2b03062503062403062303062203062103062003061f03061e03061d03061c03061b03061903061803061703061603061403071203071103061003700f0306080d3707030606030601,
  0xebbc313abb603078703078403078203078009007e03077d03077c03077b07cb7607cb7507cb74030771051d6e07cb690be26607cb640e235b04f85707c95507c95407c95207c95113aa5007cb4f07cb4e07cb4d07cb4c14e14a07cb480ae44707cb46051d45051d4407cb4307184207c94114e03e07c93d03073c07c93b03073a07c93903073707c93614e13407c93314e13007c92f07cb2e06b42d07172c051d2b03062503062403062303062203062103062003061f03061e03061d03061c03061b03061903061803061703061603061403071203071103061003710f0306080d3707030606030601,
  0xebbc313abb603078703078403078203078009007e03077d03077c03077b07cb7607cb7507cb74030771051d6e07cb690be26607cb640e235b04f85707c95507c95407c95207c95113aa5007cb4f07cb4e07cb4d07cb4c14e14a07cb480ae44707cb46051d45051d4407cb4307184207c94114e03e07c93d03073c07c93b03073a07c93903073707c93614e13407c93314e13007c92f07cb2e06b42d07172c051d2b03062503062403062303062203062103062003061f03061e03061d03061c03061b03061903061803061703061603061403071203071103061003780f0306080d3707030606030601,
  0xebbc313abb603078703078403078203078009007e03077d03077c03077b07cb7607cb7507cb74030771051d6e07cb690be26607cb640e235b04f85707c95507c95407c95207c95113aa5007cb4f07cb4e07cb4d07cb4c14e14a07cb480ae44707cb46051d45051d4407cb4307184207c94114e03e07c93d03073c07c93b03073a07c93903073707c93614e13407c93314e13007c92f07cb2e06b42d07172c051d2b03062503062403062303062203062103062003061f03061e03061d03061c03061b03061903061803061703061603061403071203071103061003790f0306080d3707030606030601,
  0xebbc313abb603078703078403078203078009007e03077d03077c03077b07cb7607cb7507cb74030771051d6e07cb690be26607cb640e235b04f85707c95507c95407c95207c95113aa5007cb4f07cb4e07cb4d07cb4c14e14a07cb480ae44707cb46051d45051d4407cb4307184207c94114e03e07c93d03073c07c93b03073a07c93903073707c93614e13407c93314e13007c92f07cb2e06b42d07172c051d2b03062503062403062303062203062103062003061f03061e03061d03061c03061b030619030618030617030616030614030712030711030610037a0f0306080d3707030606030601]

/-- The rows of successors 64 to 127. -/
def gotos1 : Array Nat := #[
  0xebbc313abb603078703078403078203078009007e03077d03077c03077b07cb7607cb7507cb74030771051d6e07cb690be26607cb640e235b04f85707c95507c95407c95207c95113aa5007cb4f07cb4e07cb4d07cb4c14e14a07cb480ae44707cb46051d45051d4407cb4307184207c94114e03e07c93d03073c07c93b03073a07c93903073707c93614e13407c93314e13007c92f07cb2e06b42d07172c051d2b03062503062403062303062203062103062003061f03061e03061d03061c03061b030619030618030617030616030614030712030711030610037b0f0306080d3707030606030601,
  0xebbc313abb603078703078403078203078009007e03077d03077c03077b07cb7607cb7507cb74030771051d6e07cb690be26607cb640e235b04f85707c95507c95407c95207c95113aa5007cb4f07cb4e07cb4d07cb4c14e14a07cb480ae44707cb46051d45051d4407cb4307184207c94114e03e07c93d03073c07c93b03073a07c93903073707c93614e13407c93314e13007c92f07cb2e06b42d07172c051d2b03062503062403062303062203062103062003061f03061e03061d03061c03061b03061903061803061703061603061403071203071103061013a20f0306080d3707030606030601,
  0x1166c91165c810bbc313abb606277e062776062775062774050e6e0627690c30660627640e235b04f85707c95507c95407c95207c95106274f06274e06274d06274c154e4a0627480b2847062746050e45050e4406274309fb4207c94114e03e07c93d07c93b07c93907c936154e3407c933154e3007c92f06272e06242d09bc2c050e2b0d3707,
  0x1166c9134dc810bbc313abb606277e062776062775062774050e6e0627690c30660627640e235b04f85707c95507c95407c95207c95106274f06274e06274d06274c154e4a0627480b2847062746050e45050e4406274309fb4207c94114e03e07c93d07c93b07c93907c936154e3407c933154e3007c92f06272e06242d09bc2c050e2b0d3707,
  0x1132c313abb606277e06277606277506277404e56e0627690c30660627640d3d5e0ecd5d0e235b04f85706265506265406265206265106274f06274e06274d06274c0e194a0627480b284706274604e54504e54406274305c34206264115cd3e06263d06263b0626390626360e19340626330e193006262f06272e05b42d09de2c04ac2b0dee07,
  0x1132c313abb606277e06277606277506277404e56e0627690c30660627640d3d5e0ee15d0e235b04f85706265506265406265206265106274f06274e06274d06274c0e194a0627480b284706274604e54504e54406274305c34206264115cd3e06263d06263b0626390626360e19340626330e193006262f06272e05b42d09de2c04ac2b0dee07,
  0x1132c313abb606277e06277606277506277404e56e0627690c30660627640d3d5e0ee25d0e235b04f85706265506265406265206265106274f06274e06274d06274c0e194a0627480b284706274604e54504e54406274305c34206264115cd3e06263d06263b0626390626360e19340626330e193006262f06272e05b42d09de2c04ac2b0dee07,
  0x10ac30ae9c10ae6c00ae6bf0ae9be0ae6bd0ae6bc13d6b60ae6b30ae6b10ae6b00ae6af0ae6ae0aebad0ae6ac0ae6aa0ae6a90ae6a80ae6a10ae6a00ae99f0ae69e0aea9c0ae99b10df950add920adc910d3e8c11568b11568a013189011c880ac78106277e06277606277506277404db6e0627690c30660627640d3d5e0ec15d0ed85b04f85706265506265406265208825114eb5006274f06274e06274d06274c0d3c4a0627480b274706274604db4504db4406274305c34206264111563f154d3e06263d06263b062639062636150d350d3c340626330d3c3006262f06272e05b42d06b72c04e42b0df407,
  0x1132c313abb606277e06277606277506277404e56e0627690c30660627640d3d5e0efb5d0e235b04f85706265506265406265206265106274f06274e06274d06274c0e194a0627480b284706274604e54504e54406274305c34206264115cd3e06263d06263b0626390626360e19340626330e193006262f06272e05b42d09de2c04ac2b0dee07,
  0x1132c313abb606277e06277606277506277404e56e0627690c30660627640d3d5e0efc5d0e235b04f85706265506265406265206265106274f06274e06274d06274c0e194a0627480b284706274604e54504e54406274305c34206264115cd3e06263d06263b0626390626360e19340626330e193006262f06272e05b42d09de2c04ac2b0dee07,
  0x1132c313abb606277e06277606277506277404e56e0627690c30660627640d3d5e0efe5d0e235b04f85706265506265406265206265106274f06274e06274d06274c0e194a0627480b284706274604e54504e54406274305c34206264115cd3e06263d06263b0626390626360e19340626330e193006262f06272e05b42d09de2c04ac2b0dee07,
  0x1132c313abb606277e06277606277506277404e56e0627690c30660627640d3d5e0f0f5d0e235b04f85706265506265406265206265106274f06274e06274d06274c0e194a0627480b284706274604e54504e54406274305c34206264115cd3e06263d06263b0626390626360e19340626330e193006262f06272e05b42d09de2c04ac2b0dee07,
  0x10ac30ae9c10ae6c00ae6bf0ae9be0ae6bd0ae6bc13d6b60ae6b30ae6b10ae6b00ae6af0ae6ae0aebad0ae6ac0ae6aa0ae6a90ae6a80ae6a10ae6a00ae99f0ae69e0aea9c0ae99b10df950add920adc910d3e8c11568b11568a013189011c880ac78106277e06277606277506277404db6e0627690c30660627640d3d5e0ec15d0ed85b04f857062655062654062652088251156c5006274f06274e06274d06274c0d3c4a0627480b274706274604db4504db4406274305c34206264111563f154d3e06263d06263b062639062636150d350d3c340626330d3c3006262f06272e05b42d06f72c04e42b0df407,
  0x10ac30ae9c10ae6c00ae6bf0ae9be0ae6bd0ae6bc13d6b60ae6b30ae6b10ae6b00ae6af0ae6ae0aebad0ae6ac0ae6aa0ae6a90ae6a80ae6a10ae6a00ae99f0ae69e0aea9c0ae99b1116950add920adc910d3e8c11568b11568a013189011c880ac78106277e06277606277506277404db6e0627690c30660627640d3d5e0ec15d0ed85b04f857062655062654062652088251156c5006274f06274e06274d06274c0d3c4a0627480b274706274604db4504db4406274305c34206264111563f154d3e06263d06263b062639062636150d350d3c340626330d3c3006262f06272e05b42d06f72c04e42b0df407,
  0x1132c313abb606277e06277606277506277404ac6e0627690c30660627640e235b04f85706265506265406265206265106274f06274e06274d06274c154e4a0627480b284706274604ac4504ac4406274305c342062641154d3e06263d06263b062639062636154e34062633154e3006262f06272e05a52d09de2c04ac2b0dee07,
  0x10ac30ae9c10ae6c00ae6bf0ae9be0ae6bd0ae6bc13d6b60ae6b30ae6b10ae6b00ae6af0ae6ae0aebad0ae6ac0ae6aa0ae6a90ae6a80ae6a10ae6a00ae99f0ae69e0aea9c0ae99b10df950add920adc910d3e8c11568b11568a013189011c880ac78106277e06277606277506277404e56e0627690c30660627640d3d5e0ec15d0ed85b04f857062655062654062652086c5106274f06274e06274d06274c0e194a0627480b284706274604e54504e54406274305c34206264111563f15cd3e06263d06263b062639062636150d350e19340626330e193006262f06272e05b42d09de2c04ac2b0e0007,
  0x1132c313abb606277e06277606277506277404ac6e0627690c30660627640e235b04f85706265506265406265206265106274f06274e06274d06274c154e4a0627480b284706274604ac4504ac4406274305c34206264115cd3e06263d06263b062639062636154e34062633154e3006262f06272e05a52d09de2c04ac2b0dee07,
  0x1132c313fdb606277e06277606277506277404ac6e0627690c30660627640ef25b04f85706265506265406265206265106274f06274e06274d06274c154e4a0627480b284706274604ac4504ac4406274305c342062641154d3e06263d06263b062639062636154e34062633154e3006262f06272e05a52d09de2c04ac2b0dee07,
  0x10ac30ae9c10ae6c00ae6bf0ae9be0ae6bd0ae6bc13d6b60ae6b30ae6b10ae6b00ae6af0ae6ae0aebad0ae6ac0ae6aa0ae6a90ae6a80ae6a10ae6a00ae99f0ae69e0aea9c0ae99b110d950add920adc910d3e8c11568b11568a013189011c880ac78106277e06277606277506277404e56e0627690c30660627640d3d5e0ec15d0ed85b04f857062655062654062652086c5106274f06274e06274d06274c0e194a0627480b284706274604e54504e54406274305c34206264111563f15cd3e06263d06263b062639062636150d350e19340626330e193006262f06272e05b42d09de2c04ac2b0e0007,
  0x10ac30ae9c10ae6c00ae6bf0ae9be0ae6bd0ae6bc13d6b60ae6b30ae6b10ae6b00ae6af0ae6ae0aebad0ae6ac0ae6aa0ae6a90ae6a80ae6a10ae6a00ae99f0ae69e0aea9c0ae99b1116950add920adc910d3e8c11568b11568a013189011c880ac78106277e06277606277506277404e56e0627690c30660627640d3d5e0ec15d0ed85b04f857062655062654062652086c5106274f06274e06274d06274c0e194a0627480b284706274604e54504e54406274305c34206264111563f15cd3e06263d06263b062639062636150d350e19340626330e193006262f06272e05b42d09de2c04ac2b0e0007,
  0x10ac30ae9c10ae6c00ae6bf0ae9be0ae6bd0ae6bc13d6b60ae6b30ae6b10ae6b00ae6af0ae6ae0aebad0ae6ac0ae6aa0ae6a90ae6a80ae6a10ae6a00ae99f0ae69e0aea9c0ae99b111e950add920adc910d3e8c11568b11568a013189011c880ac78106277e06277606277506277404e56e0627690c30660627640d3d5e0ec15d0ed85b04f857062655062654062652086c5106274f06274e06274d06274c0e194a0627480b284706274604e54504e54406274305c34206264111563f15cd3e06263d06263b062639062636150d350e19340626330e193006262f06272e05b42d09de2c04ac2b0e0007,
  0x10ac30ae9c10ae6c00ae6bf0ae9be0ae6bd0ae6bc13d6b60ae6b30ae6b10ae6b00ae6af0ae6ae0aebad0ae6ac0ae6aa0ae6a90ae6a80ae6a10ae6a00ae99f0ae69e0aea9c0ae99b1126950add920adc910d3e8c11568b11568a013189011c880ac78106277e06277606277506277404e56e0627690c30660627640d3d5e0ec15d0ed85b04f857062655062654062652086c5106274f06274e06274d06274c0e194a0627480b284706274604e54504e54406274305c34206264111563f15cd3e06263d06263b062639062636150d350e19340626330e193006262f06272e05b42d09de2c04ac2b0e0007,
  0x10bbc313abb606277e062776062775062774050e6e0627690c30660627640e235b04f85707c95507c95407c95207c95106274f06274e06274d06274c154e4a0627480b2847062746050e45050e4406274309fb4207c94114e03e07c93d07c93b07c93907c936154e3407c933154e3007c92f06272e06242d09bc2c050e2b0d3707,
  0x10bbc313fdb606277e062776062775062774050e6e0627690c30660627640ef25b04f85707c95507c95407c95207c95106274f06274e06274d06274c154e4a0627480b2847062746050e45050e4406274309fb4207c94114e03e07c93d07c93b07c93907c936154e3407c933154e3007c92f06272e06242d09bc2c050e2b0d3707,
  0x1132c313fdb606277e06277606277506277404ac6e0627690c30660627640ef25b04f85706265506265406265206265106274f06274e06274d06274c154e4a0627480b284706274604ac4504ac4406274305c34206264115cd3e06263d06263b062639062636154e34062633154e3006262f06272e05a52d09de2c04ac2b0dee07,
  0x10bbc313abb606277e062776062775062774050e6e0627690c30660627640e235b04f85707c95507c95407c95207c95106274f06274e06274d06274c154e4a0627480b2847062746050e45050e4406274309fb4207c94116123e07c93d07c93b07c93907c936154e3407c933154e3007c92f06272e06242d09bc2c050e2b0d3707,
  0x10bbc313fdb606277e062776062775062774050e6e0627690c30660627640ef25b04f85707c95507c95407c95207c95106274f06274e06274d06274c154e4a0627480b2847062746050e45050e4406274309fb4207c94116123e07c93d07c93b07c93907c936154e3407c933154e3007c92f06272e06242d09bc2c050e2b0d3707,
  0x1132c313abb606277e06277606277506277404ac6e0627690c30660627640e235b04f85706265506265406265206265106274f06274e06274d06274c154e4a0627480b284706274604ac4504ac4406274305c34206264115de3e06263d06263b062639062636154e34062633154e3006262f06272e05a52d09de2c04ac2b0dee07,
  0x1132c314bfb606277e06277606277506277404ac6e0627690c3066062764107f5b04f85706265506265406265206265106274f06274e06274d06274c154e4a0627480b284706274604ac4504ac4406274305c342062641154d3e06263d06263b062639062636154e34062633154e3006262f06272e05a52d09de2c04ac2b0dee07,
  0x10bbc313abb606277e062776062775062774050e6e0627690c30660627640e235b04f85707c95507c95407c95207c95106274f06274e06274d06274c154e4a0627480b2847062746050e45050e4406274309fb4207c94115ee3e07c93d07c93b07c93907c936154e3407c933154e3007c92f06272e06242d09bc2c050e2b0d3707,
  0x10bbc313fdb606277e062776062775062774050e6e0627690c30660627640ef25b04f85707c95507c95407c95207c95106274f06274e06274d06274c154e4a0627480b2847062746050e45050e4406274309fb4207c94115ee3e07c93d07c93b07c93907c936154e3407c933154e3007c92f06272e06242d09bc2c050e2b0d3707,
  0x1132c313fdb606277e06277606277506277404ac6e0627690c30660627640ef25b04f85706265506265406265206265106274f06274e06274d06274c154e4a0627480b284706274604ac4504ac4406274305c34206264115d63e06263d06263b062639062636154e34062633154e3006262f06272e05a52d09de2c04ac2b0dee07,
  0x1132c313abb606277e06277606277506277404ac6e0627690c30660627640e235b04f85706265506265406265206265106274f06274e06274d06274c154e4a0627480b284706274604ac4504ac4406274305c34206264115d63e06263d06263b062639062636154e34062633154e3006262f06272e05a52d09de2c04ac2b0dee07,
  0x1132c313fdb606277e06277606277506277404ac6e0627690c30660627640ef25b04f85706265506265406265206265106274f06274e06274d06274c154e4a0627480b284706274604ac4504ac4406274305c34206264116063e06263d06263b062639062636154e34062633154e3006262f06272e05a52d09de2c04ac2b0dee07,
  0x1132c314d7b606277e06277606277506277404ac6e0627690c306606276410b25b04f85706265506265406265206265106274f06274e06274d06274c154e4a0627480b284706274604ac4504ac4406274305c342062641154d3e06263d06263b062639062636154e34062633154e3006262f06272e05a52d09de2c04ac2b0dee07,
  0x1132c313abb606277e06277606277506277404ac6e0627690c30660627640e235b04f85706265506265406265206265106274f06274e06274d06274c154e4a0627480b284706274604ac4504ac4406274305c34206264116063e06263d06263b062639062636154e34062633154e3006262f06272e05a52d09de2c04ac2b0dee07,
  0x1132c313fdb606277e06277606277506277404ac6e0627690c30660627640ef25b04f85706265506265406265206265106274f06274e06274d06274c154e4a0627480b284706274604ac4504ac4406274305c34206264115de3e06263d06263b062639062636154e34062633154e3006262f06272e05a52d09de2c04ac2b0dee07,
  0x1132c313fdb606277e06277606277506277404ac6e0627690c30660627640ef25b04f85706265506265406265206265106274f06274e06274d06274c154e4a0627480b284706274604ac4504ac4406274305c34206264115e63e06263d06263b062639062636154e34062633154e3006262f06272e05a52d09de2c04ac2b0dee07,
  0x1132c313abb606277e06277606277506277404ac6e0627690c30660627640e235b04f85706265506265406265206265106274f06274e06274d06274c154e4a0627480b284706274604ac4504ac4406274305c34206264115e63e06263d06263b062639062636154e34062633154e3006262f06272e05a52d09de2c04ac2b0dee07,
  0x1132c30bf1c10beec00beebf0bf1be0beebd0beebc14bcb60beeb30beeb10beeb00beeaf0beeae0bf3ad0beeac0beeaa0beea90beea80beea10beea00bf19f0bee9e0bf29c0bf19b0c46950bea920b77910b788106277e06277606277506277404db6e0627690c30660627640d3d5e11865d10795b04f85706265506265406265207a65106274f06274e06274d06274c0d3c4a0627480b274706274604db4504db4406274305c342062641154d3e06263d06263b06263906263615d4350d3c3406263313e3310d3c3006262f06272e05b42d08f52c04e42b0e0907,
  0x1132c30ae9c10ae6c00ae6bf0ae9be0ae6bd0ae6bc13d6b60ae6b30ae6b10ae6b00ae6af0ae6ae0aebad0ae6ac0ae6aa0ae6a90ae6a80ae6a10ae6a010e99f0ae69e0f069c0ae99b1194950add920adc910ac78106277e06277606277506277404e46e0627690c30660627640ed85b04f85706265506265406265208825115105006274f06274e06274d06274c15ce4a0627480b274706274604e44504e44406274305c342062641154d3e06263d06263b062639062636150d3515ce3406263315ce3006262f06272e05b42d07ec2c04e42b0df407,
  0x10bbc30ae9c10ae6c00ae6bf0ae9be0ae6bd0ae6bc13d6b60ae6b30ae6b10ae6b00ae6af0ae6ae0aebad0ae6ac0ae6aa0ae6a90ae6a80ae6a10ae6a00ae99f0ae69e0aea9c0ae99b0e84950add920adc910ac78107cb7e07cb7607cb7507cb74051d6e07cb690be26607cb640ed85b04f85707c95507c95407c95207275107cb4f07cb4e07cb4d07cb4c14e14a07cb480ae44707cb46051d45051d4407cb4307184207c94114e03e07c93d07c93b07c93907c936150d3514e13407c93314e13007c92f07cb2e06b42d06c02c051d2b0d4f07,
  0x1132c30ae9c10ae6c00ae6bf0ae9be0ae6bd0ae6bc13d6b60ae6b30ae6b10ae6b00ae6af0ae6ae0aebad0ae6ac0ae6aa0ae6a90ae6a80ae6a10ae6a00ae99f0ae69e0aea9c0ae99b0f05950add920adc910ac78106277e062776062775062774057b6e0627690c30660627640ed85b04f85706265506265406265209915106274f06274e06274d06274c0e1c4a0627480b2847062746057b45057b4406274305c34206264115cd3e06263d06263b062639062636150d350e1c340626330e1c3006262f06272e05b42d09de2c04ac2b0e0307,
  0x1132c30ae9c10ae6c00ae6bf0ae9be0ae6bd0ae6bc13d6b60ae6b30ae6b10ae6b00ae6af0ae6ae0aebad0ae6ac0ae6aa0ae6a90ae6a80ae6a10ae6a00ae99f0ae69e0aea9c0ae99b0f05950add920adc910ac78106277e06277606277506277405206e0627690c30660627640ed85b04f857062655062654062652086c5106274f06274e06274d06274c0ec84a0627480b274706274605204505204406274305c342062641154d3e06263d06263b062639062636150d350ec8340626330ec83006262f06272e05b42d071f2c04e42b0df407,
  0x1132c30ae9c10ae6c00ae6bf0ae9be0ae6bd0ae6bc13d6b60ae6b30ae6b10ae6b00ae6af0ae6ae0aebad0ae6ac0ae6aa0ae6a90ae6a80ae6a10ae6a00ae99f0ae69e0aea9c0ae99b0e96950add920adc910ac78106277e06277606277506277404e46e0627690c30660627640ed85b04f85706265506265406265206505106274f06274e06274d06274c15ce4a0627480b274706274604e44504e44406274305c342062641154d3e06263d06263b062639062636150d3515ce3406263315ce3006262f06272e05b42d06452c04e42b0df407,
  0x10bbc30ae9c10ae6c00ae6bf0ae9be0ae6bd0ae6bc13d6b60ae6b30ae6b10ae6b00ae6af0ae6ae0aebad0ae6ac0ae6aa0ae6a90ae6a80ae6a10ae6a00ae99f0ae69e0aea9c0ae99b0e84950add920adc910ac78107cb7e07cb7607cb7507cb7405516e07cb690be26607cb640ed85b04f85707c95507c95407c95209205107cb4f07cb4e07cb4d07cb4c15ef4a07cb480b344707cb4605514505514407cb4307184207c94115ee3e07c93d07c93b07c93907c936150d3515ef3407c93315ef3007c92f07cb2e06b42d089a2c05512b0e0507,
  0x1132c30ae9c10ae6c00ae6bf0ae9be0ae6bd0ae6bc13d6b60ae6b30ae6b10ae6b00ae6af0ae6ae0aebad0ae6ac0ae6aa0ae6a90ae6a80ae6a10ae6a00ae99f0ae69e0aea9c0ae99b0e96950add920adc910ac78106277e06277606277506277404ac6e0627690c30660627640ed85b04f857062655062654062652079a5106274f06274e06274d06274c154e4a0627480b284706274604ac4504ac4406274305c34206264115cd3e06263d06263b062639062636150d35154e34062633154e3006262f06272e05b42d099a2c04ac2b0e0307,
  0x10bbc30ae9c10ae6c00ae6bf0ae9be0ae6bd0ae6bc13d6b60ae6b30ae6b10ae6b00ae6af0ae6ae0aebad0ae6ac0ae6aa0ae6a90ae6a80ae6a10ae6a00ae99f0ae69e0aea9c0ae99b0e84950add920adc910ac78107cb7e07cb7607cb7507cb74052e6e07cb690be26607cb640ed85b04f85707c95507c95407c95207275107cb4f07cb4e07cb4d07cb4c16134a07cb480b364707cb46052e45052e4407cb4307184207c94116123e07c93d07c93b07c93907c936150d3516133407c93316133007c92f07cb2e06b42d06ff2c052e2b0d4f07,
  0x1132c30ae9c10ae6c00ae6bf0ae9be0ae6bd0ae6bc13d6b60ae6b30ae6b10ae6b00ae6af0ae6ae0aebad0ae6ac0ae6aa0ae6a90ae6a80ae6a10ae6a00ae99f0ae69e0aea9c0ae99b0e96950add920adc910ac78106277e06277606277506277405556e0627690c30660627640ed85b04f857062655062654062652079a5106274f06274e06274d06274c16074a0627480b2d4706274605554505554406274305c34206264115d63e06263d06263b062639062636150d3516073406263316073006262f06272e05b42d08c82c05552b0e0307,
  0x1132c30ae9c10ae6c00ae6bf0ae9be0ae6bd0ae6bc13d6b60ae6b30ae6b10ae6b00ae6af0ae6ae0aebad0ae6ac0ae6aa0ae6a90ae6a80ae6a10ae6a00ae99f0ae69e0aea9c0ae99b0e96950add920adc910ac78106277e06277606277506277405826e0627690c30660627640ed85b04f857062655062654062652079a5106274f06274e06274d06274c161b4a0627480b2e4706274605824505824406274305c34206264115de3e06263d06263b062639062636150d35161b34062633161b3006262f06272e05b42d09302c05822b0e0707,
  0x1132c30ae9c10ae6c00ae6bf0ae9be0ae6bd0ae6bc13d6b60ae6b30ae6b10ae6b00ae6af0ae6ae0aebad0ae6ac0ae6aa0ae6a90ae6a80ae6a10ae6a00ae99f0ae69e0aea9c0ae99b0e96950add920adc910ac78106277e062776062775062774054b6e0627690c30660627640ed85b04f85706265506265406265206505106274f06274e06274d06274c16104a0627480b3547062746054b45054b4406274305c34206264116063e06263d06263b062639062636150d3516103406263316103006262f06272e05b42d07b12c054b2b0df407,
  0x1132c30ae9c10ae6c00ae6bf0ae9be0ae6bd0ae6bc13d6b60ae6b30ae6b10ae6b00ae6af0ae6ae0aebad0ae6ac0ae6aa0ae6a90ae6a80ae6a10ae6a00ae99f0ae69e0aea9c0ae99b0e96950add920adc910ac78106277e06277606277506277405836e0627690c30660627640ed85b04f857062655062654062652079a5106274f06274e06274d06274c161d4a0627480b334706274605834505834406274305c34206264115e63e06263d06263b062639062636150d35161d34062633161d3006262f06272e05b42d094d2c05832b0e0307,
  0x1132c313abb606277e06277606277506277404e46e0627690c30660627640e235b04f85706265506265406265206265106274f06274e06274d06274c15ce4a0627480b274706274604e44504e44406274305c342062641154d3e06263d06263b06263906263615ce3406263315ce3006262f06272e05b42d062a2c04e42b0dee07,
  0x10bbc313abb607cb7e07cb7607cb7507cb74051d6e07cb690be26607cb640e235b04f85707c95507c95407c95207c95107cb4f07cb4e07cb4d07cb4c14e14a07cb480ae44707cb46051d45051d4407cb4307184207c94114e03e07c93d07c93b07c93907c93614e13407c93314e13007c92f07cb2e06b42d06b92c051d2b0d3707,
  0x10bbc313abb607cb7e07cb7607cb7507cb74052e6e07cb690be26607cb640e235b04f85707c95507c95407c95207c95107cb4f07cb4e07cb4d07cb4c16134a07cb480b364707cb46052e45052e4407cb4307184207c94116123e07c93d07c93b07c93907c93616133407c93316133007c92f07cb2e06b42d07152c052e2b0d3707,
  0x10bbc313abb607cb7e07cb7607cb7507cb7405516e07cb690be26607cb640e235b04f85707c95507c95407c95207c95107cb4f07cb4e07cb4d07cb4c15ef4a07cb480b344707cb4605514505514407cb4307184207c94115ee3e07c93d07c93b07c93907c93615ef3407c93315ef3007c92f07cb2e06b42d08b92c05512b0d3707,
  0x1132c313abb606277e062776062775062774054b6e0627690c30660627640e235b04f85706265506265406265206265106274f06274e06274d06274c16104a0627480b3547062746054b45054b4406274305c34206264116063e06263d06263b06263906263616103406263316103006262f06272e05b42d07c72c054b2b0dee07,
  0x1132c313abb606277e06277606277506277405556e0627690c30660627640e235b04f85706265506265406265206265106274f06274e06274d06274c16074a0627480b2d4706274605554505554406274305c34206264115d63e06263d06263b06263906263616073406263316073006262f06272e05b42d08de2c05552b0dee07,
  0x1132c313abb606277e06277606277506277405836e0627690c30660627640e235b04f85706265506265406265206265106274f06274e06274d06274c161d4a0627480b334706274605834505834406274305c34206264115e63e06263d06263b062639062636161d34062633161d3006262f06272e05b42d09632c05832b0dee07,
  0x1132c313abb606277e06277606277506277405826e0627690c30660627640e235b04f85706265506265406265206265106274f06274e06274d06274c161b4a0627480b2e4706274605824505824406274305c34206264115de3e06263d06263b062639062636161b34062633161b3006262f06272e05b42d09462c05822b0dee07,
  0x1132c313abb606277e06277606277506277404ac6e0627690c30660627640e235b04f85706265506265406265206265106274f06274e06274d06274c154e4a0627480b284706274604ac4504ac4406274305c34206264115cd3e06263d06263b062639062636154e34062633154e3006262f06272e05b42d09b12c04ac2b0dee07,
  0xae9c10ae6c00ae6bf0ae9be0ae6bd0ae6bc13cfb60ae6b30ae6b10ae6b00ae6af0ae6ae0aebad0ae6ac0ae6aa0ae6a90ae6a80ae6a10ae6a00ae99f0ae69e0aea9c0ae99b0b64950add920adc910ac781150e5b0ae751150d35117c07,
  0xec6c313abb603078703078403078203078000e47e03077d03077c03077b07cb7607cb7507cb7403077105516e07cb690be26607cb640e235b04f85707c95507c95407c95207c95107cb4f07cb4e07cb4d07cb4c15ef4a07cb480b344707cb4605514505514407cb4307184207c94115ee3e07c93d03073c07c93b03073a07c93903073707c93615ef3407c93315ef3007c92f07cb2e06b42d08ed2c05512b0307120307110d3707031106,
  0xec6c313abb603078703078403078203078000e47e03077d03077c03077b07cb7607cb7507cb7403077105516e07cb690be26607cb640e235b04f85707c95507c95407c95207c95107cb4f07cb4e07cb4d07cb4c15ef4a07cb480b344707cb4605514505514407cb4307184207c94115ee3e07c93d03073c07c93b03073a07c93903073707c93615ef3407c93315ef3007c92f07cb2e06b42d08fa2c05512b0307120307110d3707033f06]

/-- The rows of successors 128 to 191. -/
def gotos2 : Array Nat := #[
  0x109ac313abb603078703078403078203078009007e03077d03077c03077b07cb7607cb7507cb7403077105516e07cb690be26607cb640e235b04f85707c95507c95407c95207c95107cb4f07cb4e07cb4d07cb4c15ef4a07cb480b344707cb4605514505514407cb4307184207c94115ee3e07c93d03073c07c93b03073a07c93903073707c93615ef3407c93315ef3007c92f07cb2e06b42d08fa2c05512b0307120307110d3707033f06,
  0x109ac313abb603078703078403078203078009007e03077d03077c03077b07cb7607cb7507cb7403077105516e07cb690be26607cb640e235b04f85707c95507c95407c95207c95107cb4f07cb4e07cb4d07cb4c15ef4a07cb480b344707cb4605514505514407cb4307184207c94115ee3e07c93d03073c07c93b03073a07c93903073707c93615ef3407c93315ef3007c92f07cb2e06b42d08ed2c05512b0307120307110d3707031106,
  0x10abc313abb610068710068410068210068009107e10067d10067c10067b07cb7607cb7507cb7410067105516e07cb690be26607cb640e235b04f85707c95507c95407c95207c95107cb4f07cb4e07cb4d07cb4c15ef4a07cb480b344707cb4605514505514407cb4307184207c94115ee3e07c93d10063c07c93b10063a07c93910063707c93615ef3407c93315ef3007c92f07cb2e06b42d09262c05512b1006121006110d3707102b06,
  0x10abc313abb610068710068410068210068009107e10067d10067c10067b07cb7607cb7507cb7410067105516e07cb690be26607cb640e235b04f85707c95507c95407c95207c95107cb4f07cb4e07cb4d07cb4c15ef4a07cb480b344707cb4605514505514407cb4307184207c94115ee3e07c93d10063c07c93b10063a07c93910063707c93615ef3407c93315ef3007c92f07cb2e06b42d09252c05512b1006121006110d3707100c06,
  0xae9c10ae6c00ae6bf0ae9be0ae6bd0ae6bc14d4b60ae6b30ae6b10ae6b00ae6af0ae6ae0aebad0ae6ac0ae6aa0ae6a90ae6a80ae6a10ae6a00ae99f0ae69e0aea9c0ae99b0e1e950add920c57910ac78115fb5b0ae751150d35139b07,
  0xbf1c10beec00beebf0bf1be0beebd0beebc14c3b60beeb30beeb10beeb00beeaf0beeae0bf3ad0beeac0beeaa0beea90beea80beea10beea00bf19f0bee9e0bf29c0bf19b0bfd950bca920b57910b788115745b0bef5115d435136b07,
  0x10ac313abb60d3e8c11568b11568a013189011c8806277e06277606277506277404db6e0627690c30660627640d3d5e0ec15d0e235b04f85706265506265406265206265114eb5006274f06274e06274d06274c0d3c4a0627480b274706274604db4504db4406274305c34206264111563f154d3e06263d06263b0626390626360d3c340626330d3c3006262f06272e05b42d06b72c04e42b0dee07,
  0x10ac313abb60d3e8c11568b11568a013189011c8806277e06277606277506277404db6e0627690c30660627640d3d5e0ec15d0e235b04f857062655062654062652062651156c5006274f06274e06274d06274c0d3c4a0627480b274706274604db4504db4406274305c34206264111563f154d3e06263d06263b0626390626360d3c340626330d3c3006262f06272e05b42d06f72c04e42b0dee07,
  0x10ac313abb60d3e8c11568b11568a013189011c8806277e06277606277506277404e56e0627690c30660627640d3d5e0ec15d0e235b04f85706265506265406265206265106274f06274e06274d06274c0e194a0627480b284706274604e54504e54406274305c34206264111563f15cd3e06263d06263b0626390626360e19340626330e193006262f06272e05b42d09de2c04ac2b0dee07,
  0x10ac313abb60d3e8c13ed8b13ed8a013189011c8806277e06277606277506277404e56e0627690c30660627640d3d5e0ec15d0e235b04f85706265506265406265206265106274f06274e06274d06274c0e194a0627480b284706274604e54504e54406274305c34206264113ed3f15cd3e06263d06263b0626390626360e19340626330e193006262f06272e05b42d09de2c04ac2b0dee07,
  0x10ac313abb60d3e8c13468b13468a013189011c8806277e06277606277506277404e56e0627690c30660627640d3d5e0ec15d0e235b04f85706265506265406265206265106274f06274e06274d06274c0e194a0627480b284706274604e54504e54406274305c34206264113463f15cd3e06263d06263b0626390626360e19340626330e193006262f06272e05b42d09de2c04ac2b0dee07,
  0x10ac313abb60d3e8c13678b13678a013189011c8806277e06277606277506277404e56e0627690c30660627640d3d5e0ec15d0e235b04f85706265506265406265206265106274f06274e06274d06274c0e194a0627480b284706274604e54504e54406274305c34206264113673f15cd3e06263d06263b0626390626360e19340626330e193006262f06272e05b42d09de2c04ac2b0dee07,
  0x115acb1159ca1132c313abb606277e06277606277506277404db6e0627690c30660627640d3d5e10c05d0e235b04f85706265506265406265206265106274f06274e06274d06274c11584b0d3c4a0627480b274706274604db4504db4406274305c342062641154d3e06263d06263b0626390626360d3c340626331157310d3c3006262f06272e05b42d07ce2c04e42b0dee07,
  0xe614,
  0x115acb1159ca1132c313abb606277e06277606277506277404db6e0627690c30660627640d3d5e10c05d0e235b04f85706265506265406265206265106274f06274e06274d06274c11584b0d3c4a0627480b274706274604db4504db4406274305c342062641154d3e06263d06263b0626390626360d3c340626331157310d3c3006262f06272e05b42d07d82c04e42b0dee07,
  0x1132c313abb606277e06277606277506277404e46e0627690c30660627640e235b04f85706265506265406265206265106274f06274e06274d06274c15ce4a0627480b274706274604e44504e44406274305c342062641154d3e06263d06263b06263906263615ce3406263315ce3006262f06272e05b42d06282c04e42b0dee07,
  0x115acb1349ca1132c313abb606277e06277606277506277404db6e0627690c30660627640d3d5e10c05d0e235b04f85706265506265406265206265106274f06274e06274d06274c13484b0d3c4a0627480b274706274604db4504db4406274305c342062641154d3e06263d06263b0626390626360d3c340626331157310d3c3006262f06272e05b42d08942c04e42b0dee07,
  0x115acb1132c313abb61522ab06277e062776062775062774054c6e0627690c30660627640d3d5e10c05d0e235b04f85706265506265406265206265106274f06274e06274d06274c13a34a0627480b2e47062746054c45054c4406274305c34206264115de3e06263d06263b06263906263613a33406263311573113a33006262f06272e05b42d09942c05822b0dee07,
  0x134acb1132c313abb606277e06277606277506277404e56e0627690c30660627640d3d5e11055d0e235b04f85706265506265406265206265106274f06274e06274d06274c0e194a0627480b284706274604e54504e54406274305c34206264115cd3e06263d06263b0626390626360e19340626331347310e193006262f06272e05b42d09de2c04ac2b0dee07,
  0x1132c313abb606277e06277606277506277405336e0627690c30660627640e235b04f85706265506265406265206265115065006274f06274e06274d06274c11714a0627480b274706274605334505334406274305c342062641154d3e06263d06263b06263906263611713406263311713006262f06272e05b42d07de2c05332b0132240132120132110dee07,
  0x1132c313abb606277e06277606277506277404db6e0627690c30660627640d3d5e11765d0e235b04f85706265506265406265206265106274f06274e06274d06274c11754b0d3c4a0627480b274706274604db4504db4406274305c342062641154d3e06263d06263b0626390626360d3c3406263313cd310d3c3006262f06272e05b42d07e12c04e42b0dee07,
  0x115acb1132c313abb606277e062776062775062774054c6e0627690c30660627640d3d5e10c05d0e235b04f85706265506265406265206265106274f06274e06274d06274c13a34a0627480b2e47062746054c45054c4406274305c34206264115de3e06263d06263b06263906263613a33406263311573113a33006262f06272e05b42d096b2c05822b0dee07,
  0x115acb1132c313abb606277e06277606277506277404e56e0627690c30660627640d3d5e10c05d0e235b04f85706265506265406265206265106274f06274e06274d06274c0e194a0627480b284706274604e54504e54406274305c34206264115cd3e06263d06263b0626390626360e19340626331157310e193006262f06272e05b42d09de2c04ac2b0dee07,
  0x1132c313abb606277e06277606277506277404ac6e0627690c30660627640e235b04f85706265506265406265206265106274f06274e06274d06274c154e4a0627480b284706274604ac4504ac4406274305c34206264115cd3e06263d06263b062639062636154e34062633154e3006262f06272e05b42d09af2c04ac2b0dee07,
  0x1132c313abb606277e06277606277506277405336e0627690c30660627640e235b04f85706265506265406265206265116225006274f06274e06274d06274c11714a0627480b274706274605334505334406274305c342062641154d3e06263d06263b06263906263611713406263311713006262f06272e05b42d08eb2c05332b0137240137120137110dee07,
  0x1132c313abb606277e06277606277506277405336e0627690c30660627640e235b04f85706265506265406265206265116275006274f06274e06274d06274c11714a0627480b274706274605334505334406274305c342062641154d3e06263d06263b06263906263611713406263311713006262f06272e05b42d08ec2c05332b0139240139120139110dee07,
  0x1132c313abb606277e06277606277506277404e56e0627690c30660627640d3d5e11765d0e235b04f85706265506265406265206265106274f06274e06274d06274c0e194a0627480b284706274604e54504e54406274305c34206264115cd3e06263d06263b0626390626360e193406263313cd310e193006262f06272e05b42d09de2c04ac2b0dee07,
  0x4dcc313abb6013489011f8806277e06277606277506277404e56e0627690c30660627640d3d5e0ece5d0e235b04f85706265506265406265206265106274f06274e06274d06274c0e194a0627480b284706274604e54504e54406274305c34206264115cd3e06263d06263b0626390626360e19340626330e193006262f06272e05b42d09de2c04ac2b0dee07,
  0x1180ca1132c313abb606277e06277606277506277404e46e0627690c30660627640e235b04f85706265506265406265206265106274f06274e06274d06274c117f4b15ce4a0627480b274706274604e44504e44406274305c342062641154d3e06263d06263b06263906263615ce3406263315ce3006262f06272e05b42d07ef2c04e42b0dee07,
  0x1132c313abb606277e06277606277506277404e46e0627690c30660627640e235b04f85706265506265406265206265106274f06274e06274d06274c11754b15ce4a0627480b274706274604e44504e44406274305c342062641154d3e06263d06263b06263906263615ce3406263315ce3006262f06272e05b42d07e12c04e42b0dee07,
  0x10bbc313abb607cb7e07cb7607cb7507cb74051d6e07cb690be26607cb640e235b04f85707c95507c95407c95207c95107cb4f07cb4e07cb4d07cb4c14e14a07cb480ae44707cb46051d45051d4407cb4307184207c94114e03e07c93d07c93b07c93907c93614e13407c93314e13007c92f07cb2e06b42d06b52c051d2b0d3707,
  0x1358ca1132c313abb606277e06277606277506277404e46e0627690c30660627640e235b04f85706265506265406265206265106274f06274e06274d06274c13574b15ce4a0627480b274706274604e44504e44406274305c342062641154d3e06263d06263b06263906263615ce3406263315ce3006262f06272e05b42d089b2c04e42b0dee07,
  0x136dca1132c313abb606277e06277606277506277404e46e0627690c30660627640e235b04f85706265506265406265206265106274f06274e06274d06274c136c4b15ce4a0627480b274706274604e44504e44406274305c342062641154d3e06263d06263b06263906263615ce3406263315ce3006262f06272e05b42d08b22c04e42b0dee07,
  0x137aca1132c313abb606277e06277606277506277404e46e0627690c30660627640e235b04f85706265506265406265206265106274f06274e06274d06274c13794b15ce4a0627480b274706274604e44504e44406274305c342062641154d3e06263d06263b06263906263615ce3406263315ce3006262f06272e05b42d08b32c04e42b0dee07,
  0x1383ca1132c313abb606277e06277606277506277404e46e0627690c30660627640e235b04f85706265506265406265206265106274f06274e06274d06274c13824b15ce4a0627480b274706274604e44504e44406274305c342062641154d3e06263d06263b06263906263615ce3406263315ce3006262f06272e05b42d08b42c04e42b0dee07,
  0x138eca1132c313abb606277e06277606277506277404e46e0627690c30660627640e235b04f85706265506265406265206265106274f06274e06274d06274c138d4b15ce4a0627480b274706274604e44504e44406274305c342062641154d3e06263d06263b06263906263615ce3406263315ce3006262f06272e05b42d08b52c04e42b0dee07,
  0x1392ca1132c313abb606277e06277606277506277404e46e0627690c30660627640e235b04f85706265506265406265206265106274f06274e06274d06274c13914b15ce4a0627480b274706274604e44504e44406274305c342062641154d3e06263d06263b06263906263615ce3406263315ce3006262f06272e05b42d08b62c04e42b0dee07,
  0x10bbc313abb607cb7e07cb7607cb7507cb7405516e07cb690be26607cb640e235b04f85707c95507c95407c95207c95107cb4f07cb4e07cb4d07cb4c15ef4a07cb480b344707cb4605514505514407cb4307184207c94115ee3e07c93d07c93b07c93907c93615ef3407c93315ef3007c92f07cb2e06b42d08b72c05512b0d3707,
  0x10bbc313abb607cb7e07cb7607cb7507cb74052e6e07cb690be26607cb640e235b04f85707c95507c95407c95207c95107cb4f07cb4e07cb4d07cb4c16134a07cb480b364707cb46052e45052e4407cb4307184207c94116123e07c93d07c93b07c93907c93616133407c93316133007c92f07cb2e06b42d07132c052e2b0d3707,
  0x1132c313abb606277e06277606277506277405556e0627690c30660627640e235b04f85706265506265406265206265106274f06274e06274d06274c16074a0627480b2d4706274605554505554406274305c34206264115d63e06263d06263b06263906263616073406263316073006262f06272e05b42d08dc2c05552b0dee07,
  0x1132c313abb606277e06277606277506277405826e0627690c30660627640e235b04f85706265506265406265206265106274f06274e06274d06274c161b4a0627480b2e4706274605824505824406274305c34206264115de3e06263d06263b062639062636161b34062633161b3006262f06272e05b42d09442c05822b0dee07,
  0x1132c313abb606277e06277606277506277405836e0627690c30660627640e235b04f85706265506265406265206265106274f06274e06274d06274c161d4a0627480b334706274605834505834406274305c34206264115e63e06263d06263b062639062636161d34062633161d3006262f06272e05b42d09612c05832b0dee07,
  0x1132c313abb606277e062776062775062774054b6e0627690c30660627640e235b04f85706265506265406265206265106274f06274e06274d06274c16104a0627480b3547062746054b45054b4406274305c34206264116063e06263d06263b06263906263616103406263316103006262f06272e05b42d07c52c054b2b0dee07,
  0x1132c313abb601338906277e06277606277506277404e56e0627690c30660627640d3d5e0ecd5d0e235b04f85706265506265406265206265106274f06274e06274d06274c0e194a0627480b284706274604e54504e54406274305c34206264115cd3e06263d06263b0626390626360e19340626330e193006262f06272e05b42d09de2c04ac2b0dee07,
  0x1132c313abb606277e06277606277506277404e46e0627690c30660627640e235b04f85706265506265406265206265115155006274f06274e06274d06274c15154b15ce4a0627480b274706274604e44504e44406274305c342062641154d3e06263d06263b06263906263615ce3406263315ce3006262f06272e05b42d07f52c04e42b0dee07,
  0x1132c313abb606277e06277606277506277404db6e0627690c30660627640d3d5e11865d0e235b04f85706265506265406265206265106274f06274e06274d06274c0d3c4a0627480b274706274604db4504db4406274305c342062641154d3e06263d06263b0626390626360d3c3406263313e3310d3c3006262f06272e05b42d08f52c04e42b0dee07,
  0x1132c313abb601368906277e06277606277506277404e56e0627690c30660627640d3d5e0ee35d0e235b04f85706265506265406265206265106274f06274e06274d06274c0e194a0627480b284706274604e54504e54406274305c34206264115cd3e06263d06263b0626390626360e19340626330e193006262f06272e05b42d09de2c04ac2b0dee07,
  0x10bbc313abb60aeca70acaa60aaaa50aa9a407cb7e07cb7607cb7507cb74051d6e07cb690be26607cb640e235b04f85707c95507c95407c95207c95107cb4f07cb4e07cb4d07cb4c14e14a07cb480ae44707cb46051d45051d4407cb4307184207c94114e03e07c93d07c93b07c93907c93614e13407c93314e13007c92f07cb2e06b42d06b52c051d2b0d5907,
  0x1132c313abb606277e06277606277506277404e56e0627690c30660627640d3d5e11865d0e235b04f85706265506265406265206265106274f06274e06274d06274c0e194a0627480b284706274604e54504e54406274305c34206264115cd3e06263d06263b0626390626360e193406263313e3310e193006262f06272e05b42d09de2c04ac2b0dee07,
  0x1132c313abb60aeca70acaa60aaaa50aa9a406277e06277606277506277404e46e0627690c30660627640e235b04f85706265506265406265206265106274f06274e06274d06274c15ce4a0627480b274706274604e44504e44406274305c342062641154d3e06263d06263b06263906263615ce3406263315ce3006262f06272e05b42d06282c04e42b0df907,
  0x1132c313abb606277e06277606277506277404e46e0627690c30660627640e235b04f85706265506265406265206265115615006274f06274e06274d06274c15614b15ce4a0627480b274706274604e44504e44406274305c342062641154d3e06263d06263b06263906263615ce3406263315ce3006262f06272e05b42d08aa2c04e42b0dee07,
  0x1132c313abb60aeca70acaa60aaaa50aa9a406277e06277606277506277404ac6e0627690c30660627640e235b04f85706265506265406265206265106274f06274e06274d06274c154e4a0627480b284706274604ac4504ac4406274305c34206264115cd3e06263d06263b062639062636154e34062633154e3006262f06272e05b42d09af2c04ac2b0e0107,
  0x1132c313abb60bf6a70b7aa60adaa50ad9a406277e06277606277506277404e46e0627690c30660627640e235b04f85706265506265406265206265106274f06274e06274d06274c15ce4a0627480b274706274604e44504e44406274305c342062641154d3e06263d06263b06263906263615ce3406263315ce3006262f06272e05b42d06282c04e42b0e0807,
  0x10bbc313abb60aeca70acaa60aaaa50aa9a407cb7e07cb7607cb7507cb7405516e07cb690be26607cb640e235b04f85707c95507c95407c95207c95107cb4f07cb4e07cb4d07cb4c15ef4a07cb480b344707cb4605514505514407cb4307184207c94115ee3e07c93d07c93b07c93907c93615ef3407c93315ef3007c92f07cb2e06b42d08b72c05512b0e0407,
  0x10bbc313abb60aeca70acaa60aaaa50aa9a407cb7e07cb7607cb7507cb74052e6e07cb690be26607cb640e235b04f85707c95507c95407c95207c95107cb4f07cb4e07cb4d07cb4c16134a07cb480b364707cb46052e45052e4407cb4307184207c94116123e07c93d07c93b07c93907c93616133407c93316133007c92f07cb2e06b42d07132c052e2b0d5907,
  0x1132c313abb60aeca70acaa60aaaa50aa9a406277e06277606277506277405556e0627690c30660627640e235b04f85706265506265406265206265106274f06274e06274d06274c16074a0627480b2d4706274605554505554406274305c34206264115d63e06263d06263b06263906263616073406263316073006262f06272e05b42d08dc2c05552b0e0107,
  0x1132c313abb60aeca70acaa60aaaa50aa9a406277e06277606277506277405826e0627690c30660627640e235b04f85706265506265406265206265106274f06274e06274d06274c161b4a0627480b2e4706274605824505824406274305c34206264115de3e06263d06263b062639062636161b34062633161b3006262f06272e05b42d09442c05822b0e0607,
  0x1132c313abb60aeca70acaa60aaaa50aa9a406277e06277606277506277405836e0627690c30660627640e235b04f85706265506265406265206265106274f06274e06274d06274c161d4a0627480b334706274605834505834406274305c34206264115e63e06263d06263b062639062636161d34062633161d3006262f06272e05b42d09612c05832b0e0107,
  0x1132c313abb60aeca70acaa60aaaa50aa9a406277e062776062775062774054b6e0627690c30660627640e235b04f85706265506265406265206265106274f06274e06274d06274c16104a0627480b3547062746054b45054b4406274305c34206264116063e06263d06263b06263906263616103406263316103006262f06272e05b42d07c52c054b2b0df907,
  0x10bbc313abb607cb7e07cb7607cb7507cb74051d6e07cb690be26607cb640e235b04f85707c95507c95407c95207c95113b45007cb4f07cb4e07cb4d07cb4c14e14a07cb480ae44707cb46051d45051d4407cb4307184207c94114e03e07c93d07c93b07c93907c93614e13407c93314e13007c92f07cb2e06b42d071a2c051d2b0d3707,
  0x1132c313abb606277e06277606277506277404e46e0627690c30660627640e235b04f85706265506265406265206265115215006274f06274e06274d06274c15ce4a0627480b274706274604e44504e44406274305c342062641154d3e06263d06263b06263906263615ce3406263315ce3006262f06272e05b42d07ff2c04e42b013c240dee07,
  0x1132c313abb606277e06277606277506277404e56e0627690c30660627640d3d5e0ee45d0e235b04f85706265506265406265206265106274f06274e06274d06274c0e194a0627480b284706274604e54504e54406274305c34206264115cd3e06263d06263b0626390626360e19340626330e193006262f06272e05b42d09de2c04ac2b0dee07,
  0x1132c313abb606277e06277606277506277404e46e0627690c30660627640e235b04f85706265506265406265206265115315006274f06274e06274d06274c15ce4a0627480b274706274604e44504e44406274305c342062641154d3e06263d06263b06263906263615ce3406263315ce3006262f06272e05b42d08252c04e42b013e240dee07,
  0x1132c313abb606277e06277606277506277404e56e0627690c30660627640d3d5e0efd5d0e235b04f85706265506265406265206265106274f06274e06274d06274c0e194a0627480b284706274604e54504e54406274305c34206264115cd3e06263d06263b0626390626360e19340626330e193006262f06272e05b42d09de2c04ac2b0dee07]

/-- The rows of successors 192 to 255. -/
def gotos3 : Array Nat := #[
  0x1132c313abb606277e06277606277506277404e46e0627690c30660627640e235b04f85706265506265406265206265115fc5006274f06274e06274d06274c15ce4a0627480b274706274604e44504e44406274305c342062641154d3e06263d06263b06263906263615ce3406263315ce3006262f06272e05b42d08e02c04e42b0140240dee07,
  0x1132c313abb606277e06277606277506277404e46e0627690c30660627640e235b04f85706265506265406265206265116015006274f06274e06274d06274c15ce4a0627480b274706274604e44504e44406274305c342062641154d3e06263d06263b06263906263615ce3406263315ce3006262f06272e05b42d08e12c04e42b0142240dee07,
  0x1132c313abb606277e06277606277506277404e46e0627690c30660627640e235b04f85706265506265406265206265116195006274f06274e06274d06274c15ce4a0627480b274706274604e44504e44406274305c342062641154d3e06263d06263b06263906263615ce3406263315ce3006262f06272e05b42d08e92c04e42b0144240dee07,
  0x1132c313abb606277e06277606277506277404e46e0627690c30660627640e235b04f857062655062654062652062651161a5006274f06274e06274d06274c15ce4a0627480b274706274604e44504e44406274305c342062641154d3e06263d06263b06263906263615ce3406263315ce3006262f06272e05b42d08ea2c04e42b0146240dee07,
  0x1132c313abb606277e062776062775062774057c6e0627690c30660627640e235b04f85706265506265406265206265106274f06274e06274d06274c139f4a0627480b2847062746057c45057c4406274305c34206264115cd3e06263d06263b062639062636139f34062633139f3006262f06272e05b42d09de2c057c2b0dee07,
  0x1132c313abb606277e06277606277506277404e46e0627690c30660627640e235b04f85706265506265406265206265115305006274f06274e06274d06274c15ce4a0627480b274706274604e44504e44406274305c342062641154d3e06263d06263b06263906263615ce3406263315ce3006262f06272e05b42d08242c04e42b0dee07,
  0x1132c313abb606277e06277606277506277404e46e0627690c30660627640e235b04f85706265506265406265206265115385006274f06274e06274d06274c15ce4a0627480b274706274604e44504e44406274305c342062641154d3e06263d06263b06263906263615ce3406263315ce3006262f06272e05b42d083d2c04e42b0dee07,
  0x1132c313abb606277e06277606277506277404e46e0627690c30660627640e235b04f85706265506265406265206265115395006274f06274e06274d06274c15ce4a0627480b274706274604e44504e44406274305c342062641154d3e06263d06263b06263906263615ce3406263315ce3006262f06272e05b42d083e2c04e42b0dee07,
  0x1132c313abb606277e06277606277506277404e46e0627690c30660627640e235b04f85706265506265406265206265115415006274f06274e06274d06274c15ce4a0627480b274706274604e44504e44406274305c342062641154d3e06263d06263b06263906263615ce3406263315ce3006262f06272e05b42d084d2c04e42b0dee07,
  0x1132c313abb606277e06277606277506277404e46e0627690c30660627640e235b04f85706265506265406265206265115c55006274f06274e06274d06274c15ce4a0627480b274706274604e44504e44406274305c342062641154d3e06263d06263b06263906263615ce3406263315ce3006262f06272e05b42d08bc2c04e42b0dee07,
  0x1132c313abb606277e06277606277506277404e46e0627690c30660627640e235b04f85706265506265406265206265115c85006274f06274e06274d06274c15ce4a0627480b274706274604e44504e44406274305c342062641154d3e06263d06263b06263906263615ce3406263315ce3006262f06272e05b42d08be2c04e42b0dee07,
  0x1132c313abb606277e06277606277506277404e46e0627690c30660627640e235b04f85706265506265406265206265115c95006274f06274e06274d06274c15ce4a0627480b274706274604e44504e44406274305c342062641154d3e06263d06263b06263906263615ce3406263315ce3006262f06272e05b42d08bf2c04e42b0dee07,
  0x1132c313abb606277e06277606277506277404e46e0627690c30660627640e235b04f85706265506265406265206265115cb5006274f06274e06274d06274c15ce4a0627480b274706274604e44504e44406274305c342062641154d3e06263d06263b06263906263615ce3406263315ce3006262f06272e05b42d08c12c04e42b0dee07,
  0x1132c313abb606277e06277606277506277404e46e0627690c30660627640e235b04f857062655062654062652062651160c5006274f06274e06274d06274c15ce4a0627480b274706274604e44504e44406274305c342062641154d3e06263d06263b06263906263615ce3406263315ce3006262f06272e05b42d08e42c04e42b0dee07,
  0x1132c313abb606277e06277606277506277404e46e0627690c30660627640e235b04f857062655062654062652062651160d5006274f06274e06274d06274c15ce4a0627480b274706274604e44504e44406274305c342062641154d3e06263d06263b06263906263615ce3406263315ce3006262f06272e05b42d08e52c04e42b0dee07,
  0x1132c313abb606277e06277606277506277404e46e0627690c30660627640e235b04f857062655062654062652062651160e5006274f06274e06274d06274c15ce4a0627480b274706274604e44504e44406274305c342062641154d3e06263d06263b06263906263615ce3406263315ce3006262f06272e05b42d08e62c04e42b0dee07,
  0x1132c313abb606277e06277606277506277404e46e0627690c30660627640e235b04f857062655062654062652062651160f5006274f06274e06274d06274c15ce4a0627480b274706274604e44504e44406274305c342062641154d3e06263d06263b06263906263615ce3406263315ce3006262f06272e05b42d08e72c04e42b0dee07,
  0x10bbc313abb607cb7e07cb7607cb7507cb74051d6e07cb690be26607cb640e235b04f85707c95507c95407c95207c95113b55007cb4f07cb4e07cb4d07cb4c14e14a07cb480ae44707cb46051d45051d4407cb4307184207c94114e03e07c93d07c93b07c93907c93614e13407c93314e13007c92f07cb2e06b42d071b2c051d2b0d3707,
  0x10bbc313abb607cb7e07cb7607cb7507cb74051d6e07cb690be26607cb640e235b04f85707c95507c95407c95207c95107cb4f07cb4e07cb4d07cb4c14e14a07cb480ae44707cb46051d45051d4407cb4307184207c94114e03e07c93d07c93b07c93907c93614e13407c93314e13007c92f07cb2e06b42d06bb2c051d2b07d7140d3707,
  0x1132c313abb606277e06277606277506277404e46e0627690c30660627640e235b04f85706265506265406265206265115505006274f06274e06274d06274c15ce4a0627480b274706274604e44504e44406274305c342062641154d3e06263d06263b06263906263615ce3406263315ce3006262f06272e05b42d06f52c04e42b0dee07,
  0x1132c313abb606277e10d079062776062775062774054b6e0627690c30660627640e235b04f85706265506265406265206265106274f06274e06274d06274c16104a0627480b3547062746054b45054b4406274305c34206264116063e06263d06263b06263906263616103406263316103006262f06272e05b42d07e42c054b2b0dee07,
  0x1132c313abb606277e06277606277506277404e46e0627690c30660627640e235b04f85706265506265406265206265115105006274f06274e06274d06274c15ce4a0627480b274706274604e44504e44406274305c342062641154d3e06263d06263b06263906263615ce3406263315ce3006262f06272e05b42d07ec2c04e42b0dee07,
  0x10bbc313abb607cb7e07cb7607cb7507cb74051d6e07cb690be26607cb640e235b04f85707c95507c95407c95207c95107cb4f07cb4e07cb4d07cb4c14e14a07cb480ae44707cb46051d45051d4407cb4307184207c94114e03e07c93d07c93b07c93907c93614e13407c93314e13007c92f07cb2e06b42d06bf2c051d2b07ee140d3707,
  0x1132c313abb606277e06277606277506277404e46e0627690c30660627640e235b04f85706265506265406265206265115145006274f06274e06274d06274c15ce4a0627480b274706274604e44504e44406274305c342062641154d3e06263d06263b06263906263615ce3406263315ce3006262f06272e05b42d07f22c04e42b0dee07,
  0x10bbc313abb607cb7e07cb7607cb7507cb74051d6e07cb690be26607cb640e235b04f85707c95507c95407c95207c95107cb4f07cb4e07cb4d07cb4c14e14a07cb480ae44707cb46051d45051d4407cb4307184207c94114e03e07c93d07c93b07c93907c93614e13407c93314e13007c92f07cb2e06b42d06cd2c051d2b07f4140d3707,
  0x1132c313abb61522ab06277e06277606277506277405826e0627690c30660627640e235b04f85706265506265406265206265106274f06274e06274d06274c161b4a0627480b2e4706274605824505824406274305c34206264115de3e06263d06263b062639062636161b34062633161b3006262f06272e05b42d09942c05822b0dee07,
  0x10bbc313abb607cb7e07cb7607cb7507cb74051d6e07cb690be26607cb640e235b04f85707c95507c95407c95207c95107cb4f07cb4e07cb4d07cb4c14e14a07cb480ae44707cb46051d45051d4407cb4307184207c94114e03e07c93d07c93b07c93907c93614e13407c93314e13007c92f07cb2e06b42d06d02c051d2b080c140d3707,
  0x10bbc313abb607cb7e07cb7607cb7507cb74051d6e07cb690be26607cb640e235b04f85707c95507c95407c95207c95107cb4f07cb4e07cb4d07cb4c14e14a07cb480ae44707cb46051d45051d4407cb4307184207c94114e03e07c93d07c93b07c93907c93614e13407c93314e13007c92f07cb2e06b42d06d12c051d2b080e140d3707,
  0x10bbc313abb607cb7e07cb7607cb7507cb74051d6e07cb690be26607cb640e235b04f85707c95507c95407c95207c95107cb4f07cb4e07cb4d07cb4c14e14a07cb480ae44707cb46051d45051d4407cb4307184207c94114e03e07c93d07c93b07c93907c93614e13407c93314e13007c92f07cb2e06b42d06d22c051d2b080f140d3707,
  0x1132c313abb606277e06277606277506277404e46e0627690c30660627640e235b04f857062655062654062652062651152a5006274f06274e06274d06274c15ce4a0627480b274706274604e44504e44406274305c342062641154d3e06263d06263b06263906263615ce3406263315ce3006262f06272e05b42d08172c04e42b0dee07,
  0x1132c313abb606277e06277606277506277404e46e0627690c30660627640e235b04f857062655062654062652062651152d5006274f06274e06274d06274c15ce4a0627480b274706274604e44504e44406274305c342062641154d3e06263d06263b06263906263615ce3406263315ce3006262f06272e05b42d08212c04e42b0dee07,
  0x1132c313abb606277e06277606277506277404e46e0627690c30660627640e235b04f857062655062654062652062651152e5006274f06274e06274d06274c15ce4a0627480b274706274604e44504e44406274305c342062641154d3e06263d06263b06263906263615ce3406263315ce3006262f06272e05b42d08222c04e42b0dee07,
  0x1132c313abb606277e06277606277506277404e46e0627690c30660627640e235b04f857062655062654062652062651152f5006274f06274e06274d06274c15ce4a0627480b274706274604e44504e44406274305c342062641154d3e06263d06263b06263906263615ce3406263315ce3006262f06272e05b42d08232c04e42b0dee07,
  0x1132c313abb61532ab06277e06277606277506277405826e0627690c30660627640e235b04f85706265506265406265206265106274f06274e06274d06274c161b4a0627480b2e4706274605824505824406274305c34206264115de3e06263d06263b062639062636161b34062633161b3006262f06272e05b42d09942c05822b0dee07,
  0x1132c313abb606277e11a979062776062775062774054b6e0627690c30660627640e235b04f85706265506265406265206265106274f06274e06274d06274c16104a0627480b3547062746054b45054b4406274305c34206264116063e06263d06263b06263906263616103406263316103006262f06272e05b42d07e42c054b2b0dee07,
  0x1132c313abb606277e06277606277506277404e46e0627690c30660627640e235b04f85706265506265406265206265115375006274f06274e06274d06274c15ce4a0627480b274706274604e44504e44406274305c342062641154d3e06263d06263b06263906263615ce3406263315ce3006262f06272e05b42d083c2c04e42b0dee07,
  0x1132c313abb606277e06277606277506277404e46e0627690c30660627640e235b04f857062655062654062652062651153e5006274f06274e06274d06274c15ce4a0627480b274706274604e44504e44406274305c342062641154d3e06263d06263b06263906263615ce3406263315ce3006262f06272e05b42d084a2c04e42b0dee07,
  0x1132c313abb606277e06277606277506277404e46e0627690c30660627640e235b04f857062655062654062652062651153f5006274f06274e06274d06274c15ce4a0627480b274706274604e44504e44406274305c342062641154d3e06263d06263b06263906263615ce3406263315ce3006262f06272e05b42d084b2c04e42b0dee07,
  0x1132c313abb606277e06277606277506277404e46e0627690c30660627640e235b04f85706265506265406265206265115405006274f06274e06274d06274c15ce4a0627480b274706274604e44504e44406274305c342062641154d3e06263d06263b06263906263615ce3406263315ce3006262f06272e05b42d084c2c04e42b0dee07,
  0x1132c313abb606277e06277606277506277404e46e0627690c30660627640e235b04f85706265506265406265206265106274f06274e06274d06274c15ce4a0627480b274706274604e44504e44406274305c342062641154d3e06263d06263b06263906263615ce3406263315ce3006262f06272e05b42d06342c04e42b0633140dee07,
  0x1132c313abb606277e06277606277506277404e46e0627690c30660627640e235b04f85706265506265406265206265106274f06274e06274d06274c15ce4a0627480b274706274604e44504e44406274305c342062641154d3e06263d06263b06263906263615ce3406263315ce3006262f06272e05b42d06442c04e42b0643140dee07,
  0x1132c313abb606277e06277606277506277404e46e0627690c30660627640e235b04f85706265506265406265206265106274f06274e06274d06274c15ce4a0627480b274706274604e44504e44406274305c342062641154d3e06263d06263b06263906263615ce3406263315ce3006262f06272e05b42d06562c04e42b0655140dee07,
  0x1132c313abb606277e06277606277506277404e46e0627690c30660627640e235b04f85706265506265406265206265106274f06274e06274d06274c15ce4a0627480b274706274604e44504e44406274305c342062641154d3e06263d06263b06263906263615ce3406263315ce3006262f06272e05b42d06622c04e42b0661140dee07,
  0x1132c313abb606277e06277606277506277404e46e0627690c30660627640e235b04f85706265506265406265206265106274f06274e06274d06274c15ce4a0627480b274706274604e44504e44406274305c342062641154d3e06263d06263b06263906263615ce3406263315ce3006262f06272e05b42d06652c04e42b0664140dee07,
  0x1132c313abb606277e06277606277506277404e46e0627690c30660627640e235b04f85706265506265406265206265106274f06274e06274d06274c15ce4a0627480b274706274604e44504e44406274305c342062641154d3e06263d06263b06263906263615ce3406263315ce3006262f06272e05b42d06672c04e42b0666140dee07,
  0x10bbc313abb607cb7e07cb7607cb7507cb7405516e07cb690be26607cb640e235b04f85707c95507c95407c95207c95107cb4f07cb4e07cb4d07cb4c15ef4a07cb480b344707cb4605514505514407cb4307184207c94115ee3e07c93d07c93b07c93907c93615ef3407c93315ef3007c92f07cb2e06b42d08952c05512b07d7140d3707,
  0x1132c313abb606277e06277606277506277404e46e0627690c30660627640e235b04f85706265506265406265206265115885006274f06274e06274d06274c15ce4a0627480b274706274604e44504e44406274305c342062641154d3e06263d06263b06263906263615ce3406263315ce3006262f06272e05b42d06f92c04e42b0dee07,
  0x10bbc313abb607cb7e07cb7607cb7507cb7405516e07cb690be26607cb640e235b04f85707c95507c95407c95207c95107cb4f07cb4e07cb4d07cb4c15ef4a07cb480b344707cb4605514505514407cb4307184207c94115ee3e07c93d07c93b07c93907c93615ef3407c93315ef3007c92f07cb2e06b42d08992c05512b07ee140d3707,
  0x1132c313abb606277e06277606277506277404e46e0627690c30660627640e235b04f85706265506265406265206265115605006274f06274e06274d06274c15ce4a0627480b274706274604e44504e44406274305c342062641154d3e06263d06263b06263906263615ce3406263315ce3006262f06272e05b42d089d2c04e42b0dee07,
  0x10bbc313abb607cb7e07cb7607cb7507cb7405516e07cb690be26607cb640e235b04f85707c95507c95407c95207c95107cb4f07cb4e07cb4d07cb4c15ef4a07cb480b344707cb4605514505514407cb4307184207c94115ee3e07c93d07c93b07c93907c93615ef3407c93315ef3007c92f07cb2e06b42d08a82c05512b07f4140d3707,
  0x10bbc313abb607cb7e07cb7607cb7507cb7405516e07cb690be26607cb640e235b04f85707c95507c95407c95207c95107cb4f07cb4e07cb4d07cb4c15ef4a07cb480b344707cb4605514505514407cb4307184207c94115ee3e07c93d07c93b07c93907c93615ef3407c93315ef3007c92f07cb2e06b42d08ab2c05512b080c140d3707,
  0x10bbc313abb607cb7e07cb7607cb7507cb7405516e07cb690be26607cb640e235b04f85707c95507c95407c95207c95107cb4f07cb4e07cb4d07cb4c15ef4a07cb480b344707cb4605514505514407cb4307184207c94115ee3e07c93d07c93b07c93907c93615ef3407c93315ef3007c92f07cb2e06b42d08ac2c05512b080e140d3707,
  0x10bbc313abb607cb7e07cb7607cb7507cb7405516e07cb690be26607cb640e235b04f85707c95507c95407c95207c95107cb4f07cb4e07cb4d07cb4c15ef4a07cb480b344707cb4605514505514407cb4307184207c94115ee3e07c93d07c93b07c93907c93615ef3407c93315ef3007c92f07cb2e06b42d08ad2c05512b080f140d3707,
  0x1132c313abb606277e06277606277506277404e46e0627690c30660627640e235b04f85706265506265406265206265115675006274f06274e06274d06274c15ce4a0627480b274706274604e44504e44406274305c342062641154d3e06263d06263b06263906263615ce3406263315ce3006262f06272e05b42d08b02c04e42b0dee07,
  0x1132c313abb606277e06277606277506277404ac6e0627690c30660627640e235b04f85706265506265406265206265106274f06274e06274d06274c154e4a0627480b284706274604ac4504ac4406274305c34206264115cd3e06263d06263b062639062636154e34062633154e3006262f06272e05b42d09952c04ac2b0633140dee07,
  0x1132c313abb606277e06277606277506277404ac6e0627690c30660627640e235b04f85706265506265406265206265106274f06274e06274d06274c154e4a0627480b284706274604ac4504ac4406274305c34206264115cd3e06263d06263b062639062636154e34062633154e3006262f06272e05b42d09992c04ac2b0643140dee07,
  0x1132c313abb606277e06277606277506277404ac6e0627690c30660627640e235b04f85706265506265406265206265106274f06274e06274d06274c154e4a0627480b284706274604ac4504ac4406274305c34206264115cd3e06263d06263b062639062636154e34062633154e3006262f06272e05b42d09a62c04ac2b0655140dee07,
  0x1132c313abb606277e06277606277506277404ac6e0627690c30660627640e235b04f85706265506265406265206265106274f06274e06274d06274c154e4a0627480b284706274604ac4504ac4406274305c34206264115cd3e06263d06263b062639062636154e34062633154e3006262f06272e05b42d09a82c04ac2b0661140dee07,
  0x1132c313abb606277e06277606277506277404ac6e0627690c30660627640e235b04f85706265506265406265206265106274f06274e06274d06274c154e4a0627480b284706274604ac4504ac4406274305c34206264115cd3e06263d06263b062639062636154e34062633154e3006262f06272e05b42d09a92c04ac2b0664140dee07,
  0x1132c313abb606277e06277606277506277404ac6e0627690c30660627640e235b04f85706265506265406265206265106274f06274e06274d06274c154e4a0627480b284706274604ac4504ac4406274305c34206264115cd3e06263d06263b062639062636154e34062633154e3006262f06272e05b42d09aa2c04ac2b0666140dee07,
  0x10bbc313abb607cb7e07cb7607cb7507cb74052e6e07cb690be26607cb640e235b04f85707c95507c95407c95207c95107cb4f07cb4e07cb4d07cb4c16134a07cb480b364707cb46052e45052e4407cb4307184207c94116123e07c93d07c93b07c93907c93616133407c93316133007c92f07cb2e06b42d06fa2c052e2b07d7140d3707,
  0x10bbc313abb607cb7e07cb7607cb7507cb74052e6e07cb690be26607cb640e235b04f85707c95507c95407c95207c95107cb4f07cb4e07cb4d07cb4c16134a07cb480b364707cb46052e45052e4407cb4307184207c94116123e07c93d07c93b07c93907c93616133407c93316133007c92f07cb2e06b42d06fe2c052e2b07ee140d3707,
  0x10bbc313abb607cb7e07cb7607cb7507cb74052e6e07cb690be26607cb640e235b04f85707c95507c95407c95207c95107cb4f07cb4e07cb4d07cb4c16134a07cb480b364707cb46052e45052e4407cb4307184207c94116123e07c93d07c93b07c93907c93616133407c93316133007c92f07cb2e06b42d070b2c052e2b07f4140d3707,
  0x10bbc313abb607cb7e07cb7607cb7507cb74052e6e07cb690be26607cb640e235b04f85707c95507c95407c95207c95107cb4f07cb4e07cb4d07cb4c16134a07cb480b364707cb46052e45052e4407cb4307184207c94116123e07c93d07c93b07c93907c93616133407c93316133007c92f07cb2e06b42d070d2c052e2b080c140d3707]

/-- The rows of successors 256 to 319. -/
def gotos4 : Array Nat := #[
  0x10bbc313abb607cb7e07cb7607cb7507cb74052e6e07cb690be26607cb640e235b04f85707c95507c95407c95207c95107cb4f07cb4e07cb4d07cb4c16134a07cb480b364707cb46052e45052e4407cb4307184207c94116123e07c93d07c93b07c93907c93616133407c93316133007c92f07cb2e06b42d070e2c052e2b080e140d3707,
  0x10bbc313abb607cb7e07cb7607cb7507cb74052e6e07cb690be26607cb640e235b04f85707c95507c95407c95207c95107cb4f07cb4e07cb4d07cb4c16134a07cb480b364707cb46052e45052e4407cb4307184207c94116123e07c93d07c93b07c93907c93616133407c93316133007c92f07cb2e06b42d070f2c052e2b080f140d3707,
  0x1132c313abb606277e06277606277506277405556e0627690c30660627640e235b04f85706265506265406265206265106274f06274e06274d06274c16074a0627480b2d4706274605554505554406274305c34206264115d63e06263d06263b06263906263616073406263316073006262f06272e05b42d08c32c05552b0633140dee07,
  0x1132c313abb606277e06277606277506277405556e0627690c30660627640e235b04f85706265506265406265206265106274f06274e06274d06274c16074a0627480b2d4706274605554505554406274305c34206264115d63e06263d06263b06263906263616073406263316073006262f06272e05b42d08c72c05552b0643140dee07,
  0x1132c313abb606277e06277606277506277405556e0627690c30660627640e235b04f85706265506265406265206265106274f06274e06274d06274c16074a0627480b2d4706274605554505554406274305c34206264115d63e06263d06263b06263906263616073406263316073006262f06272e05b42d08d42c05552b0655140dee07,
  0x1132c313abb606277e06277606277506277405556e0627690c30660627640e235b04f85706265506265406265206265106274f06274e06274d06274c16074a0627480b2d4706274605554505554406274305c34206264115d63e06263d06263b06263906263616073406263316073006262f06272e05b42d08d62c05552b0661140dee07,
  0x1132c313abb606277e06277606277506277405556e0627690c30660627640e235b04f85706265506265406265206265106274f06274e06274d06274c16074a0627480b2d4706274605554505554406274305c34206264115d63e06263d06263b06263906263616073406263316073006262f06272e05b42d08d72c05552b0664140dee07,
  0x1132c313abb606277e06277606277506277405556e0627690c30660627640e235b04f85706265506265406265206265106274f06274e06274d06274c16074a0627480b2d4706274605554505554406274305c34206264115d63e06263d06263b06263906263616073406263316073006262f06272e05b42d08d82c05552b0666140dee07,
  0x1132c313abb606277e06277606277506277405826e0627690c30660627640e235b04f85706265506265406265206265106274f06274e06274d06274c161b4a0627480b2e4706274605824505824406274305c34206264115de3e06263d06263b062639062636161b34062633161b3006262f06272e05b42d092b2c05822b0633140dee07,
  0x1132c313abb606277e06277606277506277405826e0627690c30660627640e235b04f85706265506265406265206265106274f06274e06274d06274c161b4a0627480b2e4706274605824505824406274305c34206264115de3e06263d06263b062639062636161b34062633161b3006262f06272e05b42d092f2c05822b0643140dee07,
  0x1132c313abb606277e06277606277506277405826e0627690c30660627640e235b04f85706265506265406265206265106274f06274e06274d06274c161b4a0627480b2e4706274605824505824406274305c34206264115de3e06263d06263b062639062636161b34062633161b3006262f06272e05b42d093c2c05822b0655140dee07,
  0x1132c313abb606277e06277606277506277405826e0627690c30660627640e235b04f85706265506265406265206265106274f06274e06274d06274c161b4a0627480b2e4706274605824505824406274305c34206264115de3e06263d06263b062639062636161b34062633161b3006262f06272e05b42d093e2c05822b0661140dee07,
  0x1132c313abb606277e06277606277506277405826e0627690c30660627640e235b04f85706265506265406265206265106274f06274e06274d06274c161b4a0627480b2e4706274605824505824406274305c34206264115de3e06263d06263b062639062636161b34062633161b3006262f06272e05b42d093f2c05822b0664140dee07,
  0x1132c313abb606277e06277606277506277405826e0627690c30660627640e235b04f85706265506265406265206265106274f06274e06274d06274c161b4a0627480b2e4706274605824505824406274305c34206264115de3e06263d06263b062639062636161b34062633161b3006262f06272e05b42d09402c05822b0666140dee07,
  0x1132c313abb606277e06277606277506277405836e0627690c30660627640e235b04f85706265506265406265206265106274f06274e06274d06274c161d4a0627480b334706274605834505834406274305c34206264115e63e06263d06263b062639062636161d34062633161d3006262f06272e05b42d09482c05832b0633140dee07,
  0x1132c313abb606277e06277606277506277405836e0627690c30660627640e235b04f85706265506265406265206265106274f06274e06274d06274c161d4a0627480b334706274605834505834406274305c34206264115e63e06263d06263b062639062636161d34062633161d3006262f06272e05b42d094c2c05832b0643140dee07,
  0x1132c313abb606277e06277606277506277405836e0627690c30660627640e235b04f85706265506265406265206265106274f06274e06274d06274c161d4a0627480b334706274605834505834406274305c34206264115e63e06263d06263b062639062636161d34062633161d3006262f06272e05b42d09592c05832b0655140dee07,
  0x1132c313abb606277e06277606277506277405836e0627690c30660627640e235b04f85706265506265406265206265106274f06274e06274d06274c161d4a0627480b334706274605834505834406274305c34206264115e63e06263d06263b062639062636161d34062633161d3006262f06272e05b42d095b2c05832b0661140dee07,
  0x1132c313abb606277e06277606277506277405836e0627690c30660627640e235b04f85706265506265406265206265106274f06274e06274d06274c161d4a0627480b334706274605834505834406274305c34206264115e63e06263d06263b062639062636161d34062633161d3006262f06272e05b42d095c2c05832b0664140dee07,
  0x1132c313abb606277e06277606277506277405836e0627690c30660627640e235b04f85706265506265406265206265106274f06274e06274d06274c161d4a0627480b334706274605834505834406274305c34206264115e63e06263d06263b062639062636161d34062633161d3006262f06272e05b42d095d2c05832b0666140dee07,
  0x1132c313abb606277e062776062775062774054b6e0627690c30660627640e235b04f85706265506265406265206265106274f06274e06274d06274c16104a0627480b3547062746054b45054b4406274305c34206264116063e06263d06263b06263906263616103406263316103006262f06272e05b42d07ac2c054b2b0633140dee07,
  0x1132c313abb606277e062776062775062774054b6e0627690c30660627640e235b04f85706265506265406265206265106274f06274e06274d06274c16104a0627480b3547062746054b45054b4406274305c34206264116063e06263d06263b06263906263616103406263316103006262f06272e05b42d07b02c054b2b0643140dee07,
  0x1132c313abb606277e062776062775062774054b6e0627690c30660627640e235b04f85706265506265406265206265106274f06274e06274d06274c16104a0627480b3547062746054b45054b4406274305c34206264116063e06263d06263b06263906263616103406263316103006262f06272e05b42d07bd2c054b2b0655140dee07,
  0x1132c313abb606277e062776062775062774054b6e0627690c30660627640e235b04f85706265506265406265206265106274f06274e06274d06274c16104a0627480b3547062746054b45054b4406274305c34206264116063e06263d06263b06263906263616103406263316103006262f06272e05b42d07bf2c054b2b0661140dee07,
  0x1132c313abb606277e062776062775062774054b6e0627690c30660627640e235b04f85706265506265406265206265106274f06274e06274d06274c16104a0627480b3547062746054b45054b4406274305c34206264116063e06263d06263b06263906263616103406263316103006262f06272e05b42d07c02c054b2b0664140dee07,
  0x1132c313abb606277e062776062775062774054b6e0627690c30660627640e235b04f85706265506265406265206265106274f06274e06274d06274c16104a0627480b3547062746054b45054b4406274305c34206264116063e06263d06263b06263906263616103406263316103006262f06272e05b42d07c12c054b2b0666140dee07,
  0x10bbc313abb607cb7e07cb7607cb7507cb74051d6e07cb690be26607cb640e235b04f85707c95507c95407c95207c95107cb4f07cb4e07cb4d07cb4c14e14a07cb480ae44707cb46051d45051d4407cb4307184207c94114e03e07c93d07c93b07c93907c93614e13407c93314e13007c92f07cb2e06b42d06b82c051d2b0d3707,
  0x1132c313abb606277e06277606277506277405846e0627690c30660627640e235b04f85706265506265406265206265106274f06274e06274d06274c14f24a0627480b284706274605844505844406274305c34206264115cd3e06263d06263b06263906263614f23406263314f23006262f06272e05b42d09de2c05842b0dee07,
  0x10bbc313abb607cb7e07cb7607cb7507cb74051d6e07cb690be26607cb640e235b04f85707c95507c95407c95207c95107cb4f07cb4e07cb4d07cb4c14e14a07cb480ae44707cb46051d45051d4407cb4307184207c94114e03e07c93d07c93b07c93907c93614e13407c93314e13007c92f07cb2e06b42d06ba2c051d2b0d3707,
  0x10bbc313abb607cb7e07cb7607cb7507cb74051d6e07cb690be26607cb640e235b04f85707c95507c95407c95207c95107cb4f07cb4e07cb4d07cb4c14e14a07cb480ae44707cb46051d45051d4407cb4307184207c94114e03e07c93d07c93b07c93907c93614e13407c93314e13007c92f07cb2e06b42d07d62c051d2b0d3707,
  0x10bbc313abb607cb7e07cb7607cb7507cb74051d6e07cb690be26607cb640e235b04f85707c95507c95407c95207c95107cb4f07cb4e07cb4d07cb4c14e14a07cb480ae44707cb46051d45051d4407cb4307184207c94114e03e07c93d07c93b07c93907c93614e13407c93314e13007c92f07cb2e06b42d06bc2c051d2b0d3707,
  0x1132c313abb606277e06277606277506277405206e0627690c30660627640e235b04f85706265506265406265206265106274f06274e06274d06274c0ec84a0627480b274706274605204505204406274305c342062641154d3e06263d06263b0626390626360ec8340626330ec83006262f06272e05b42d071f2c04e42b0dee07,
  0x1132c313abb606277e06277606277506277404e66e0627690c30660627640e235b04f85706265506265406265206265106274f06274e06274d06274c0e1c4a0627480b284706274604e64504e64406274305c34206264115cd3e06263d06263b0626390626360e1c340626330e1c3006262f06272e05b42d09de2c04ac2b0dee07,
  0x10bbc313abb607cb7e07cb7607cb7507cb74051d6e07cb690be26607cb640e235b04f85707c95507c95407c95207c95107cb4f07cb4e07cb4d07cb4c14e14a07cb480ae44707cb46051d45051d4407cb4307184207c94114e03e07c93d07c93b07c93907c93614e13407c93314e13007c92f07cb2e06b42d06bd2c051d2b0d3707,
  0x10bbc313abb607cb7e07cb7607cb7507cb74051d6e07cb690be26607cb640e235b04f85707c95507c95407c95207c95107cb4f07cb4e07cb4d07cb4c14e14a07cb480ae44707cb46051d45051d4407cb4307184207c94114e03e07c93d07c93b07c93907c93614e13407c93314e13007c92f07cb2e06b42d06be2c051d2b0d3707,
  0x10bbc313abb607cb7e07cb7607cb7507cb74051d6e07cb690be26607cb640e235b04f85707c95507c95407c95207c95107cb4f07cb4e07cb4d07cb4c14e14a07cb480ae44707cb46051d45051d4407cb4307184207c94114e03e07c93d07c93b07c93907c93614e13407c93314e13007c92f07cb2e06b42d06c02c051d2b0d3707,
  0x1132c313abb606277e06277606277506277405556e0627690c30660627640e235b04f85706265506265406265206265106274f06274e06274d06274c16074a0627480b2d4706274605554505554406274305c34206264115d63e06263d06263b06263906263616073406263316073006262f06272e05b42d096a2c05552b0dee07,
  0x10bbc313abb607cb7e07cb7607cb7507cb74051d6e07cb690be26607cb640e235b04f85707c95507c95407c95207c95107cb4f07cb4e07cb4d07cb4c14e14a07cb480ae44707cb46051d45051d4407cb4307184207c94114e03e07c93d07c93b07c93907c93614e13407c93314e13007c92f07cb2e06b42d06c22c051d2b0d3707,
  0x10bbc313abb607cb7e07cb7607cb7507cb74051d6e07cb690be26607cb640e235b04f85707c95507c95407c95207c95107cb4f07cb4e07cb4d07cb4c14e14a07cb480ae44707cb46051d45051d4407cb4307184207c94114e03e07c93d07c93b07c93907c93614e13407c93314e13007c92f07cb2e06b42d07f12c051d2b0d3707,
  0x10bbc313abb607cb7e07cb7607cb7507cb74051d6e07cb690be26607cb640e235b04f85707c95507c95407c95207c95107cb4f07cb4e07cb4d07cb4c14e14a07cb480ae44707cb46051d45051d4407cb4307184207c94114e03e07c93d07c93b07c93907c93614e13407c93314e13007c92f07cb2e06b42d06c32c051d2b0d3707,
  0x10bbc313abb607cb7e07cb7607cb7507cb74051d6e07cb690be26607cb640e235b04f85707c95507c95407c95207c95107cb4f07cb4e07cb4d07cb4c14e14a07cb480ae44707cb46051d45051d4407cb4307184207c94114e03e07c93d07c93b07c93907c93614e13407c93314e13007c92f07cb2e06b42d06c42c051d2b0d3707,
  0x10bbc313abb607cb7e07cb7607cb7507cb74051d6e07cb690be26607cb640e235b04f85707c95507c95407c95207c95107cb4f07cb4e07cb4d07cb4c14e14a07cb480ae44707cb46051d45051d4407cb4307184207c94114e03e07c93d07c93b07c93907c93614e13407c93314e13007c92f07cb2e06b42d06c52c051d2b0d3707,
  0x10bbc313abb607cb7e07cb7607cb7507cb74051d6e07cb690be26607cb640e235b04f85707c95507c95407c95207c95107cb4f07cb4e07cb4d07cb4c14e14a07cb480ae44707cb46051d45051d4407cb4307184207c94114e03e07c93d07c93b07c93907c93614e13407c93314e13007c92f07cb2e06b42d06c62c051d2b0d3707,
  0x10bbc313abb607cb7e07cb7607cb7507cb74051d6e07cb690be26607cb640e235b04f85707c95507c95407c95207c95107cb4f07cb4e07cb4d07cb4c14e14a07cb480ae44707cb46051d45051d4407cb4307184207c94114e03e07c93d07c93b07c93907c93614e13407c93314e13007c92f07cb2e06b42d06c72c051d2b0d3707,
  0x10bbc313abb607cb7e07cb7607cb7507cb74051d6e07cb690be26607cb640e235b04f85707c95507c95407c95207c95107cb4f07cb4e07cb4d07cb4c14e14a07cb480ae44707cb46051d45051d4407cb4307184207c94114e03e07c93d07c93b07c93907c93614e13407c93314e13007c92f07cb2e06b42d06c82c051d2b0d3707,
  0x10bbc313abb607cb7e07cb7607cb7507cb74051d6e07cb690be26607cb640e235b04f85707c95507c95407c95207c95107cb4f07cb4e07cb4d07cb4c14e14a07cb480ae44707cb46051d45051d4407cb4307184207c94114e03e07c93d07c93b07c93907c93614e13407c93314e13007c92f07cb2e06b42d06c92c051d2b0d3707,
  0x10bbc313abb607cb7e07cb7607cb7507cb74051d6e07cb690be26607cb640e235b04f85707c95507c95407c95207c95107cb4f07cb4e07cb4d07cb4c14e14a07cb480ae44707cb46051d45051d4407cb4307184207c94114e03e07c93d07c93b07c93907c93614e13407c93314e13007c92f07cb2e06b42d06ca2c051d2b0d3707,
  0x10bbc313abb607cb7e07cb7607cb7507cb74051d6e07cb690be26607cb640e235b04f85707c95507c95407c95207c95107cb4f07cb4e07cb4d07cb4c14e14a07cb480ae44707cb46051d45051d4407cb4307184207c94114e03e07c93d07c93b07c93907c93614e13407c93314e13007c92f07cb2e06b42d06cb2c051d2b0d3707,
  0x10bbc313abb607cb7e07cb7607cb7507cb74051d6e07cb690be26607cb640e235b04f85707c95507c95407c95207c95107cb4f07cb4e07cb4d07cb4c14e14a07cb480ae44707cb46051d45051d4407cb4307184207c94114e03e07c93d07c93b07c93907c93614e13407c93314e13007c92f07cb2e06b42d06cc2c051d2b0d3707,
  0x10bbc313abb607cb7e07cb7607cb7507cb74051d6e07cb690be26607cb640e235b04f85707c95507c95407c95207c95107cb4f07cb4e07cb4d07cb4c14e14a07cb480ae44707cb46051d45051d4407cb4307184207c94114e03e07c93d07c93b07c93907c93614e13407c93314e13007c92f07cb2e06b42d06ce2c051d2b0d3707,
  0x10bbc313abb607cb7e07cb7607cb7507cb74051d6e07cb690be26607cb640e235b04f85707c95507c95407c95207c95107cb4f07cb4e07cb4d07cb4c14e14a07cb480ae44707cb46051d45051d4407cb4307184207c94114e03e07c93d07c93b07c93907c93614e13407c93314e13007c92f07cb2e06b42d072b2c051d2b0d3707,
  0x1132c313abb606277e06277606277506277405826e0627690c30660627640e235b04f85706265506265406265206265106274f06274e06274d06274c161b4a0627480b2e4706274605824505824406274305c34206264115de3e06263d06263b062639062636161b34062633161b3006262f06272e05b42d096b2c05822b0dee07,
  0x10bbc313abb607cb7e07cb7607cb7507cb74051d6e07cb690be26607cb640e235b04f85707c95507c95407c95207c95107cb4f07cb4e07cb4d07cb4c14e14a07cb480ae44707cb46051d45051d4407cb4307184207c94114e03e07c93d07c93b07c93907c93614e13407c93314e13007c92f07cb2e06b42d072c2c051d2b0d3707,
  0x10bbc313abb607cb7e07cb7607cb7507cb74051d6e07cb690be26607cb640e235b04f85707c95507c95407c95207c95107cb4f07cb4e07cb4d07cb4c14e14a07cb480ae44707cb46051d45051d4407cb4307184207c94114e03e07c93d07c93b07c93907c93614e13407c93314e13007c92f07cb2e06b42d072d2c051d2b0d3707,
  0x10bbc313abb607cb7e07cb7607cb7507cb74051d6e07cb690be26607cb640e235b04f85707c95507c95407c95207c95107cb4f07cb4e07cb4d07cb4c14e14a07cb480ae44707cb46051d45051d4407cb4307184207c94114e03e07c93d07c93b07c93907c93614e13407c93314e13007c92f07cb2e06b42d072e2c051d2b0d3707,
  0x10bbc313abb607cb7e07cb7607cb7507cb74051d6e07cb690be26607cb640e235b04f85707c95507c95407c95207c95107cb4f07cb4e07cb4d07cb4c14e14a07cb480ae44707cb46051d45051d4407cb4307184207c94114e03e07c93d07c93b07c93907c93614e13407c93314e13007c92f07cb2e06b42d07fe2c051d2b0d3707,
  0x1132c313abb606277e06277606277506277404e46e0627690c30660627640e235b04f85706265506265406265206265106274f06274e06274d06274c15ce4a0627480b274706274604e44504e44406274305c342062641154d3e06263d06263b06263906263615ce3406263315ce3006262f06272e05b42d08052c04e42b0dee07,
  0x10bbc313abb607cb7e07cb7607cb7507cb74051d6e07cb690be26607cb640e235b04f85707c95507c95407c95207c95107cb4f07cb4e07cb4d07cb4c14e14a07cb480ae44707cb46051d45051d4407cb4307184207c94114e03e07c93d07c93b07c93907c93614e13407c93314e13007c92f07cb2e06b42d06d32c051d2b0d3707,
  0x10bbc313abb607cb7e07cb7607cb7507cb74051d6e07cb690be26607cb640e235b04f85707c95507c95407c95207c95107cb4f07cb4e07cb4d07cb4c14e14a07cb480ae44707cb46051d45051d4407cb4307184207c94114e03e07c93d07c93b07c93907c93614e13407c93314e13007c92f07cb2e06b42d06d42c051d2b0d3707,
  0x1132c313abb606277e06277606277506277404e46e0627690c30660627640e235b04f85706265506265406265206265106274f06274e06274d06274c15ce4a0627480b274706274604e44504e44406274305c342062641154d3e06263d06263b06263906263615ce3406263315ce3006262f06272e05b42d071f2c04e42b0dee07,
  0x1132c313abb606277e06277606277506277404e46e0627690c30660627640e235b04f85706265506265406265206265106274f06274e06274d06274c15ce4a0627480b274706274604e44504e44406274305c342062641154d3e06263d06263b06263906263615ce3406263315ce3006262f06272e05b42d08fb2c04e42b0dee07,
  0x1132c313abb606277e06277606277506277404e46e0627690c30660627640e235b04f85706265506265406265206265106274f06274e06274d06274c15ce4a0627480b274706274604e44504e44406274305c342062641154d3e06263d06263b06263906263615ce3406263315ce3006262f06272e05b42d08fc2c04e42b0dee07,
  0x10bbc313abb607cb7e07cb7607cb7507cb74051d6e07cb690be26607cb640e235b04f85707c95507c95407c95207c95107cb4f07cb4e07cb4d07cb4c14e14a07cb480ae44707cb46051d45051d4407cb4307184207c94114e03e07c93d07c93b07c93907c93614e13407c93314e13007c92f07cb2e06b42d06db2c051d2b0d3707,
  0x1132c313abb606277e06277606277506277404e46e0627690c30660627640e235b04f85706265506265406265206265106274f06274e06274d06274c15ce4a0627480b274706274604e44504e44406274305c342062641154d3e06263d06263b06263906263615ce3406263315ce3006262f06272e05b42d08f52c04e42b0dee07]

/-- The rows of successors 320 to 383. -/
def gotos5 : Array Nat := #[
  0x10bbc313abb607cb7e07cb7607cb7507cb7405516e07cb690be26607cb640e235b04f85707c95507c95407c95207c95107cb4f07cb4e07cb4d07cb4c15ef4a07cb480b344707cb4605514505514407cb4307184207c94115ee3e07c93d07c93b07c93907c93615ef3407c93315ef3007c92f07cb2e06b42d08ff2c05512b0d3707,
  0x10bbc313abb607cb7e07cb7607cb7507cb74051d6e07cb690be26607cb640e235b04f85707c95507c95407c95207c95107cb4f07cb4e07cb4d07cb4c14e14a07cb480ae44707cb46051d45051d4407cb4307184207c94114e03e07c93d07c93b07c93907c93614e13407c93314e13007c92f07cb2e06b42d07422c051d2b0d3707,
  0x1132c313abb606277e06277606277506277404e46e0627690c30660627640e235b04f85706265506265406265206265106274f06274e06274d06274c15ce4a0627480b274706274604e44504e44406274305c342062641154d3e06263d06263b06263906263615ce3406263315ce3006262f06272e05b42d062d2c04e42b0dee07,
  0x1132c313abb606277e06277606277506277404e46e0627690c30660627640e235b04f85706265506265406265206265106274f06274e06274d06274c15ce4a0627480b274706274604e44504e44406274305c342062641154d3e06263d06263b06263906263615ce3406263315ce3006262f06272e05b42d06352c04e42b0dee07,
  0x1132c313abb606277e06277606277506277404e46e0627690c30660627640e235b04f85706265506265406265206265106274f06274e06274d06274c15ce4a0627480b274706274604e44504e44406274305c342062641154d3e06263d06263b06263906263615ce3406263315ce3006262f06272e05b42d06382c04e42b0dee07,
  0x1132c313abb606277e06277606277506277404e46e0627690c30660627640e235b04f85706265506265406265206265106274f06274e06274d06274c15ce4a0627480b274706274604e44504e44406274305c342062641154d3e06263d06263b06263906263615ce3406263315ce3006262f06272e05b42d06422c04e42b0dee07,
  0x1132c313abb606277e06277606277506277404e46e0627690c30660627640e235b04f85706265506265406265206265106274f06274e06274d06274c15ce4a0627480b274706274604e44504e44406274305c342062641154d3e06263d06263b06263906263615ce3406263315ce3006262f06272e05b42d06452c04e42b0dee07,
  0x1132c313abb606277e06277606277506277404e46e0627690c30660627640e235b04f85706265506265406265206265106274f06274e06274d06274c15ce4a0627480b274706274604e44504e44406274305c342062641154d3e06263d06263b06263906263615ce3406263315ce3006262f06272e05b42d06472c04e42b0dee07,
  0x1132c313abb606277e06277606277506277404e46e0627690c30660627640e235b04f85706265506265406265206265106274f06274e06274d06274c15ce4a0627480b274706274604e44504e44406274305c342062641154d3e06263d06263b06263906263615ce3406263315ce3006262f06272e05b42d06a22c04e42b0dee07,
  0x1132c313abb606277e06277606277506277404e46e0627690c30660627640e235b04f85706265506265406265206265106274f06274e06274d06274c15ce4a0627480b274706274604e44504e44406274305c342062641154d3e06263d06263b06263906263615ce3406263315ce3006262f06272e05b42d06482c04e42b0dee07,
  0x1132c313abb606277e06277606277506277404e46e0627690c30660627640e235b04f85706265506265406265206265106274f06274e06274d06274c15ce4a0627480b274706274604e44504e44406274305c342062641154d3e06263d06263b06263906263615ce3406263315ce3006262f06272e05b42d06492c04e42b0dee07,
  0x1132c313abb606277e06277606277506277404e46e0627690c30660627640e235b04f85706265506265406265206265106274f06274e06274d06274c15ce4a0627480b274706274604e44504e44406274305c342062641154d3e06263d06263b06263906263615ce3406263315ce3006262f06272e05b42d064a2c04e42b0dee07,
  0x1132c313abb606277e06277606277506277404e46e0627690c30660627640e235b04f85706265506265406265206265106274f06274e06274d06274c15ce4a0627480b274706274604e44504e44406274305c342062641154d3e06263d06263b06263906263615ce3406263315ce3006262f06272e05b42d064b2c04e42b0dee07,
  0x1132c313abb606277e06277606277506277404e46e0627690c30660627640e235b04f85706265506265406265206265106274f06274e06274d06274c15ce4a0627480b274706274604e44504e44406274305c342062641154d3e06263d06263b06263906263615ce3406263315ce3006262f06272e05b42d064c2c04e42b0dee07,
  0x1132c313abb606277e06277606277506277404e46e0627690c30660627640e235b04f85706265506265406265206265106274f06274e06274d06274c15ce4a0627480b274706274604e44504e44406274305c342062641154d3e06263d06263b06263906263615ce3406263315ce3006262f06272e05b42d064d2c04e42b0dee07,
  0x1132c313abb606277e06277606277506277404e46e0627690c30660627640e235b04f85706265506265406265206265106274f06274e06274d06274c15ce4a0627480b274706274604e44504e44406274305c342062641154d3e06263d06263b06263906263615ce3406263315ce3006262f06272e05b42d064e2c04e42b0dee07,
  0x1132c313abb606277e06277606277506277404e46e0627690c30660627640e235b04f85706265506265406265206265106274f06274e06274d06274c15ce4a0627480b274706274604e44504e44406274305c342062641154d3e06263d06263b06263906263615ce3406263315ce3006262f06272e05b42d064f2c04e42b0dee07,
  0x1132c313abb606277e06277606277506277404e46e0627690c30660627640e235b04f85706265506265406265206265106274f06274e06274d06274c15ce4a0627480b274706274604e44504e44406274305c342062641154d3e06263d06263b06263906263615ce3406263315ce3006262f06272e05b42d06522c04e42b0dee07,
  0x1132c313abb606277e06277606277506277404e46e0627690c30660627640e235b04f85706265506265406265206265106274f06274e06274d06274c15ce4a0627480b274706274604e44504e44406274305c342062641154d3e06263d06263b06263906263615ce3406263315ce3006262f06272e05b42d06532c04e42b0dee07,
  0x1132c313abb606277e06277606277506277404e46e0627690c30660627640e235b04f85706265506265406265206265106274f06274e06274d06274c15ce4a0627480b274706274604e44504e44406274305c342062641154d3e06263d06263b06263906263615ce3406263315ce3006262f06272e05b42d06572c04e42b0dee07,
  0x1132c313abb606277e06277606277506277404e46e0627690c30660627640e235b04f85706265506265406265206265106274f06274e06274d06274c15ce4a0627480b274706274604e44504e44406274305c342062641154d3e06263d06263b06263906263615ce3406263315ce3006262f06272e05b42d085a2c04e42b0dee07,
  0x1132c313abb606277e06277606277506277404e46e0627690c30660627640e235b04f85706265506265406265206265106274f06274e06274d06274c15ce4a0627480b274706274604e44504e44406274305c342062641154d3e06263d06263b06263906263615ce3406263315ce3006262f06272e05b42d066a2c04e42b0dee07,
  0x1132c313abb606277e06277606277506277404e46e0627690c30660627640e235b04f85706265506265406265206265106274f06274e06274d06274c15ce4a0627480b274706274604e44504e44406274305c342062641154d3e06263d06263b06263906263615ce3406263315ce3006262f06272e05b42d066b2c04e42b0dee07,
  0x1132c313abb606277e06277606277506277404e46e0627690c30660627640e235b04f85706265506265406265206265106274f06274e06274d06274c15ce4a0627480b274706274604e44504e44406274305c342062641154d3e06263d06263b06263906263615ce3406263315ce3006262f06272e05b42d067f2c04e42b0dee07,
  0x1132c313abb606277e06277606277506277404e46e0627690c30660627640e235b04f85706265506265406265206265106274f06274e06274d06274c15ce4a0627480b274706274604e44504e44406274305c342062641154d3e06263d06263b06263906263615ce3406263315ce3006262f06272e05b42d06292c04e42b0dee07,
  0x10bbc313abb607cb7e07cb7607cb7507cb74052e6e07cb690be26607cb640e235b04f85707c95507c95407c95207c95107cb4f07cb4e07cb4d07cb4c16134a07cb480b364707cb46052e45052e4407cb4307184207c94116123e07c93d07c93b07c93907c93616133407c93316133007c92f07cb2e06b42d07932c052e2b0d3707,
  0x1132c313abb606277e06277606277506277405836e0627690c30660627640e235b04f85706265506265406265206265106274f06274e06274d06274c161d4a0627480b334706274605834505834406274305c34206264115e63e06263d06263b062639062636161d34062633161d3006262f06272e05b42d09862c05832b0dee07,
  0x1132c313abb606277e06277606277506277405856e0627690c30660627640e235b04f85706265506265406265206265106274f06274e06274d06274c15554a0627480b284706274605854505854406274305c34206264115cd3e06263d06263b06263906263615553406263315553006262f06272e05b42d09de2c05852b0dee07,
  0x10bbc313abb607cb7e07cb7607cb7507cb74052e6e07cb690be26607cb640e235b04f85707c95507c95407c95207c95107cb4f07cb4e07cb4d07cb4c16134a07cb480b364707cb46052e45052e4407cb4307184207c94116123e07c93d07c93b07c93907c93616133407c93316133007c92f07cb2e06b42d07162c052e2b0d3707,
  0x10bbc313abb607cb7e07cb7607cb7507cb7405516e07cb690be26607cb640e235b04f85707c95507c95407c95207c95107cb4f07cb4e07cb4d07cb4c15ef4a07cb480b344707cb4605514505514407cb4307184207c94115ee3e07c93d07c93b07c93907c93615ef3407c93315ef3007c92f07cb2e06b42d08962c05512b0d3707,
  0x10bbc313abb607cb7e07cb7607cb7507cb7405516e07cb690be26607cb640e235b04f85707c95507c95407c95207c95107cb4f07cb4e07cb4d07cb4c15ef4a07cb480b344707cb4605514505514407cb4307184207c94115ee3e07c93d07c93b07c93907c93615ef3407c93315ef3007c92f07cb2e06b42d08972c05512b0d3707,
  0x10bbc313abb607cb7e07cb7607cb7507cb7405516e07cb690be26607cb640e235b04f85707c95507c95407c95207c95107cb4f07cb4e07cb4d07cb4c15ef4a07cb480b344707cb4605514505514407cb4307184207c94115ee3e07c93d07c93b07c93907c93615ef3407c93315ef3007c92f07cb2e06b42d08982c05512b0d3707,
  0x10bbc313abb607cb7e07cb7607cb7507cb7405516e07cb690be26607cb640e235b04f85707c95507c95407c95207c95107cb4f07cb4e07cb4d07cb4c15ef4a07cb480b344707cb4605514505514407cb4307184207c94115ee3e07c93d07c93b07c93907c93615ef3407c93315ef3007c92f07cb2e06b42d089a2c05512b0d3707,
  0x1132c313abb606277e06277606277506277405556e0627690c30660627640e235b04f85706265506265406265206265106274f06274e06274d06274c16074a0627480b2d4706274605554505554406274305c34206264115d63e06263d06263b06263906263616073406263316073006262f06272e05b42d09932c05552b0dee07,
  0x10bbc313abb607cb7e07cb7607cb7507cb7405516e07cb690be26607cb640e235b04f85707c95507c95407c95207c95107cb4f07cb4e07cb4d07cb4c15ef4a07cb480b344707cb4605514505514407cb4307184207c94115ee3e07c93d07c93b07c93907c93615ef3407c93315ef3007c92f07cb2e06b42d089c2c05512b0d3707,
  0x10bbc313abb607cb7e07cb7607cb7507cb7405516e07cb690be26607cb640e235b04f85707c95507c95407c95207c95107cb4f07cb4e07cb4d07cb4c15ef4a07cb480b344707cb4605514505514407cb4307184207c94115ee3e07c93d07c93b07c93907c93615ef3407c93315ef3007c92f07cb2e06b42d089e2c05512b0d3707,
  0x10bbc313abb607cb7e07cb7607cb7507cb7405516e07cb690be26607cb640e235b04f85707c95507c95407c95207c95107cb4f07cb4e07cb4d07cb4c15ef4a07cb480b344707cb4605514505514407cb4307184207c94115ee3e07c93d07c93b07c93907c93615ef3407c93315ef3007c92f07cb2e06b42d089f2c05512b0d3707,
  0x10bbc313abb607cb7e07cb7607cb7507cb7405516e07cb690be26607cb640e235b04f85707c95507c95407c95207c95107cb4f07cb4e07cb4d07cb4c15ef4a07cb480b344707cb4605514505514407cb4307184207c94115ee3e07c93d07c93b07c93907c93615ef3407c93315ef3007c92f07cb2e06b42d08a02c05512b0d3707,
  0x10bbc313abb607cb7e07cb7607cb7507cb7405516e07cb690be26607cb640e235b04f85707c95507c95407c95207c95107cb4f07cb4e07cb4d07cb4c15ef4a07cb480b344707cb4605514505514407cb4307184207c94115ee3e07c93d07c93b07c93907c93615ef3407c93315ef3007c92f07cb2e06b42d08a12c05512b0d3707,
  0x10bbc313abb607cb7e07cb7607cb7507cb7405516e07cb690be26607cb640e235b04f85707c95507c95407c95207c95107cb4f07cb4e07cb4d07cb4c15ef4a07cb480b344707cb4605514505514407cb4307184207c94115ee3e07c93d07c93b07c93907c93615ef3407c93315ef3007c92f07cb2e06b42d08a22c05512b0d3707,
  0x10bbc313abb607cb7e07cb7607cb7507cb7405516e07cb690be26607cb640e235b04f85707c95507c95407c95207c95107cb4f07cb4e07cb4d07cb4c15ef4a07cb480b344707cb4605514505514407cb4307184207c94115ee3e07c93d07c93b07c93907c93615ef3407c93315ef3007c92f07cb2e06b42d08a32c05512b0d3707,
  0x10bbc313abb607cb7e07cb7607cb7507cb7405516e07cb690be26607cb640e235b04f85707c95507c95407c95207c95107cb4f07cb4e07cb4d07cb4c15ef4a07cb480b344707cb4605514505514407cb4307184207c94115ee3e07c93d07c93b07c93907c93615ef3407c93315ef3007c92f07cb2e06b42d08a42c05512b0d3707,
  0x10bbc313abb607cb7e07cb7607cb7507cb7405516e07cb690be26607cb640e235b04f85707c95507c95407c95207c95107cb4f07cb4e07cb4d07cb4c15ef4a07cb480b344707cb4605514505514407cb4307184207c94115ee3e07c93d07c93b07c93907c93615ef3407c93315ef3007c92f07cb2e06b42d08a52c05512b0d3707,
  0x10bbc313abb607cb7e07cb7607cb7507cb7405516e07cb690be26607cb640e235b04f85707c95507c95407c95207c95107cb4f07cb4e07cb4d07cb4c15ef4a07cb480b344707cb4605514505514407cb4307184207c94115ee3e07c93d07c93b07c93907c93615ef3407c93315ef3007c92f07cb2e06b42d08a62c05512b0d3707,
  0x10bbc313abb607cb7e07cb7607cb7507cb7405516e07cb690be26607cb640e235b04f85707c95507c95407c95207c95107cb4f07cb4e07cb4d07cb4c15ef4a07cb480b344707cb4605514505514407cb4307184207c94115ee3e07c93d07c93b07c93907c93615ef3407c93315ef3007c92f07cb2e06b42d08a72c05512b0d3707,
  0x10bbc313abb607cb7e07cb7607cb7507cb7405516e07cb690be26607cb640e235b04f85707c95507c95407c95207c95107cb4f07cb4e07cb4d07cb4c15ef4a07cb480b344707cb4605514505514407cb4307184207c94115ee3e07c93d07c93b07c93907c93615ef3407c93315ef3007c92f07cb2e06b42d08a92c05512b0d3707,
  0x1132c313abb606277e06277606277506277405826e0627690c30660627640e235b04f85706265506265406265206265106274f06274e06274d06274c161b4a0627480b2e4706274605824505824406274305c34206264115de3e06263d06263b062639062636161b34062633161b3006262f06272e05b42d09942c05822b0dee07,
  0x10bbc313abb607cb7e07cb7607cb7507cb7405516e07cb690be26607cb640e235b04f85707c95507c95407c95207c95107cb4f07cb4e07cb4d07cb4c15ef4a07cb480b344707cb4605514505514407cb4307184207c94115ee3e07c93d07c93b07c93907c93615ef3407c93315ef3007c92f07cb2e06b42d08ae2c05512b0d3707,
  0x10bbc313abb607cb7e07cb7607cb7507cb7405516e07cb690be26607cb640e235b04f85707c95507c95407c95207c95107cb4f07cb4e07cb4d07cb4c15ef4a07cb480b344707cb4605514505514407cb4307184207c94115ee3e07c93d07c93b07c93907c93615ef3407c93315ef3007c92f07cb2e06b42d08af2c05512b0d3707,
  0x1132c313abb606277e06277606277506277405556e0627690c30660627640e235b04f85706265506265406265206265106274f06274e06274d06274c16074a0627480b2d4706274605554505554406274305c34206264115d63e06263d06263b06263906263616073406263316073006262f06272e05b42d09ae2c05552b0dee07,
  0x10bbc313abb607cb7e07cb7607cb7507cb7405516e07cb690be26607cb640e235b04f85707c95507c95407c95207c95107cb4f07cb4e07cb4d07cb4c15ef4a07cb480b344707cb4605514505514407cb4307184207c94115ee3e07c93d07c93b07c93907c93615ef3407c93315ef3007c92f07cb2e06b42d08b12c05512b0d3707,
  0x1132c313abb606277e06277606277506277404ac6e0627690c30660627640e235b04f85706265506265406265206265106274f06274e06274d06274c154e4a0627480b284706274604ac4504ac4406274305c34206264115cd3e06263d06263b062639062636154e34062633154e3006262f06272e05b42d09b22c04ac2b0dee07,
  0x1132c313abb606277e06277606277506277404ac6e0627690c30660627640e235b04f85706265506265406265206265106274f06274e06274d06274c154e4a0627480b284706274604ac4504ac4406274305c34206264115cd3e06263d06263b062639062636154e34062633154e3006262f06272e05b42d09962c04ac2b0dee07,
  0x1132c313abb606277e06277606277506277404ac6e0627690c30660627640e235b04f85706265506265406265206265106274f06274e06274d06274c154e4a0627480b284706274604ac4504ac4406274305c34206264115cd3e06263d06263b062639062636154e34062633154e3006262f06272e05b42d09972c04ac2b0dee07,
  0x1132c313abb606277e06277606277506277404ac6e0627690c30660627640e235b04f85706265506265406265206265106274f06274e06274d06274c154e4a0627480b284706274604ac4504ac4406274305c34206264115cd3e06263d06263b062639062636154e34062633154e3006262f06272e05b42d09982c04ac2b0dee07,
  0x1132c313abb606277e06277606277506277404ac6e0627690c30660627640e235b04f85706265506265406265206265106274f06274e06274d06274c154e4a0627480b284706274604ac4504ac4406274305c34206264115cd3e06263d06263b062639062636154e34062633154e3006262f06272e05b42d099a2c04ac2b0dee07,
  0x1132c313abb606277e06277606277506277404ac6e0627690c30660627640e235b04f85706265506265406265206265106274f06274e06274d06274c154e4a0627480b284706274604ac4504ac4406274305c34206264115cd3e06263d06263b062639062636154e34062633154e3006262f06272e05b42d099b2c04ac2b0dee07,
  0x1132c313abb606277e06277606277506277404ac6e0627690c30660627640e235b04f85706265506265406265206265106274f06274e06274d06274c154e4a0627480b284706274604ac4504ac4406274305c34206264115cd3e06263d06263b062639062636154e34062633154e3006262f06272e05b42d099c2c04ac2b0dee07,
  0x1132c313abb606277e06277606277506277404ac6e0627690c30660627640e235b04f85706265506265406265206265106274f06274e06274d06274c154e4a0627480b284706274604ac4504ac4406274305c34206264115cd3e06263d06263b062639062636154e34062633154e3006262f06272e05b42d099d2c04ac2b0dee07,
  0x1132c313abb606277e06277606277506277404ac6e0627690c30660627640e235b04f85706265506265406265206265106274f06274e06274d06274c154e4a0627480b284706274604ac4504ac4406274305c34206264115cd3e06263d06263b062639062636154e34062633154e3006262f06272e05b42d099e2c04ac2b0dee07,
  0x1132c313abb606277e06277606277506277404ac6e0627690c30660627640e235b04f85706265506265406265206265106274f06274e06274d06274c154e4a0627480b284706274604ac4504ac4406274305c34206264115cd3e06263d06263b062639062636154e34062633154e3006262f06272e05b42d099f2c04ac2b0dee07,
  0x1132c313abb606277e06277606277506277404ac6e0627690c30660627640e235b04f85706265506265406265206265106274f06274e06274d06274c154e4a0627480b284706274604ac4504ac4406274305c34206264115cd3e06263d06263b062639062636154e34062633154e3006262f06272e05b42d09a02c04ac2b0dee07,
  0x1132c313abb606277e06277606277506277404ac6e0627690c30660627640e235b04f85706265506265406265206265106274f06274e06274d06274c154e4a0627480b284706274604ac4504ac4406274305c34206264115cd3e06263d06263b062639062636154e34062633154e3006262f06272e05b42d09a12c04ac2b0dee07,
  0x1132c313abb606277e06277606277506277404ac6e0627690c30660627640e235b04f85706265506265406265206265106274f06274e06274d06274c154e4a0627480b284706274604ac4504ac4406274305c34206264115cd3e06263d06263b062639062636154e34062633154e3006262f06272e05b42d09a22c04ac2b0dee07]

/-- The rows of successors 384 to 447. -/
def gotos6 : Array Nat := #[
  0x1132c313abb606277e06277606277506277404ac6e0627690c30660627640e235b04f85706265506265406265206265106274f06274e06274d06274c154e4a0627480b284706274604ac4504ac4406274305c34206264115cd3e06263d06263b062639062636154e34062633154e3006262f06272e05b42d09a32c04ac2b0dee07,
  0x1132c313abb606277e06277606277506277404ac6e0627690c30660627640e235b04f85706265506265406265206265106274f06274e06274d06274c154e4a0627480b284706274604ac4504ac4406274305c34206264115cd3e06263d06263b062639062636154e34062633154e3006262f06272e05b42d09a42c04ac2b0dee07,
  0x1132c313abb606277e06277606277506277404ac6e0627690c30660627640e235b04f85706265506265406265206265106274f06274e06274d06274c154e4a0627480b284706274604ac4504ac4406274305c34206264115cd3e06263d06263b062639062636154e34062633154e3006262f06272e05b42d09a52c04ac2b0dee07,
  0x1132c313abb606277e06277606277506277404ac6e0627690c30660627640e235b04f85706265506265406265206265106274f06274e06274d06274c154e4a0627480b284706274604ac4504ac4406274305c34206264115cd3e06263d06263b062639062636154e34062633154e3006262f06272e05b42d09a72c04ac2b0dee07,
  0x1132c313abb606277e06277606277506277404ac6e0627690c30660627640e235b04f85706265506265406265206265106274f06274e06274d06274c154e4a0627480b284706274604ac4504ac4406274305c34206264115cd3e06263d06263b062639062636154e34062633154e3006262f06272e05b42d09ab2c04ac2b0dee07,
  0x1132c313abb606277e06277606277506277404ac6e0627690c30660627640e235b04f85706265506265406265206265106274f06274e06274d06274c154e4a0627480b284706274604ac4504ac4406274305c34206264115cd3e06263d06263b062639062636154e34062633154e3006262f06272e05b42d09ac2c04ac2b0dee07,
  0x1132c313abb606277e06277606277506277404ac6e0627690c30660627640e235b04f85706265506265406265206265106274f06274e06274d06274c154e4a0627480b284706274604ac4504ac4406274305c34206264115cd3e06263d06263b062639062636154e34062633154e3006262f06272e05b42d09ad2c04ac2b0dee07,
  0x1132c313abb606277e06277606277506277404ac6e0627690c30660627640e235b04f85706265506265406265206265106274f06274e06274d06274c154e4a0627480b284706274604ac4504ac4406274305c34206264115cd3e06263d06263b062639062636154e34062633154e3006262f06272e05b42d09b02c04ac2b0dee07,
  0x1132c313abb606277e06277606277506277405866e0627690c30660627640e235b04f85706265506265406265206265106274f06274e06274d06274c15d24a0627480b284706274605864505864406274305c34206264115cd3e06263d06263b06263906263615d23406263315d23006262f06272e05b42d09de2c05862b0dee07,
  0x10bbc313abb607cb7e07cb7607cb7507cb74052e6e07cb690be26607cb640e235b04f85707c95507c95407c95207c95107cb4f07cb4e07cb4d07cb4c16134a07cb480b364707cb46052e45052e4407cb4307184207c94116123e07c93d07c93b07c93907c93616133407c93316133007c92f07cb2e06b42d06fb2c052e2b0d3707,
  0x10bbc313abb607cb7e07cb7607cb7507cb74052e6e07cb690be26607cb640e235b04f85707c95507c95407c95207c95107cb4f07cb4e07cb4d07cb4c16134a07cb480b364707cb46052e45052e4407cb4307184207c94116123e07c93d07c93b07c93907c93616133407c93316133007c92f07cb2e06b42d06fc2c052e2b0d3707,
  0x10bbc313abb607cb7e07cb7607cb7507cb74052e6e07cb690be26607cb640e235b04f85707c95507c95407c95207c95107cb4f07cb4e07cb4d07cb4c16134a07cb480b364707cb46052e45052e4407cb4307184207c94116123e07c93d07c93b07c93907c93616133407c93316133007c92f07cb2e06b42d06fd2c052e2b0d3707,
  0x10bbc313abb607cb7e07cb7607cb7507cb74052e6e07cb690be26607cb640e235b04f85707c95507c95407c95207c95107cb4f07cb4e07cb4d07cb4c16134a07cb480b364707cb46052e45052e4407cb4307184207c94116123e07c93d07c93b07c93907c93616133407c93316133007c92f07cb2e06b42d06ff2c052e2b0d3707,
  0x1132c313abb606277e06277606277506277405556e0627690c30660627640e235b04f85706265506265406265206265106274f06274e06274d06274c16074a0627480b2d4706274605554505554406274305c34206264115d63e06263d06263b06263906263616073406263316073006262f06272e05b42d09b32c05552b0dee07,
  0x10bbc313abb607cb7e07cb7607cb7507cb74052e6e07cb690be26607cb640e235b04f85707c95507c95407c95207c95107cb4f07cb4e07cb4d07cb4c16134a07cb480b364707cb46052e45052e4407cb4307184207c94116123e07c93d07c93b07c93907c93616133407c93316133007c92f07cb2e06b42d07002c052e2b0d3707,
  0x10bbc313abb607cb7e07cb7607cb7507cb74052e6e07cb690be26607cb640e235b04f85707c95507c95407c95207c95107cb4f07cb4e07cb4d07cb4c16134a07cb480b364707cb46052e45052e4407cb4307184207c94116123e07c93d07c93b07c93907c93616133407c93316133007c92f07cb2e06b42d07012c052e2b0d3707,
  0x10bbc313abb607cb7e07cb7607cb7507cb74052e6e07cb690be26607cb640e235b04f85707c95507c95407c95207c95107cb4f07cb4e07cb4d07cb4c16134a07cb480b364707cb46052e45052e4407cb4307184207c94116123e07c93d07c93b07c93907c93616133407c93316133007c92f07cb2e06b42d07022c052e2b0d3707,
  0x10bbc313abb607cb7e07cb7607cb7507cb74052e6e07cb690be26607cb640e235b04f85707c95507c95407c95207c95107cb4f07cb4e07cb4d07cb4c16134a07cb480b364707cb46052e45052e4407cb4307184207c94116123e07c93d07c93b07c93907c93616133407c93316133007c92f07cb2e06b42d07032c052e2b0d3707,
  0x10bbc313abb607cb7e07cb7607cb7507cb74052e6e07cb690be26607cb640e235b04f85707c95507c95407c95207c95107cb4f07cb4e07cb4d07cb4c16134a07cb480b364707cb46052e45052e4407cb4307184207c94116123e07c93d07c93b07c93907c93616133407c93316133007c92f07cb2e06b42d07042c052e2b0d3707,
  0x10bbc313abb607cb7e07cb7607cb7507cb74052e6e07cb690be26607cb640e235b04f85707c95507c95407c95207c95107cb4f07cb4e07cb4d07cb4c16134a07cb480b364707cb46052e45052e4407cb4307184207c94116123e07c93d07c93b07c93907c93616133407c93316133007c92f07cb2e06b42d07052c052e2b0d3707,
  0x10bbc313abb607cb7e07cb7607cb7507cb74052e6e07cb690be26607cb640e235b04f85707c95507c95407c95207c95107cb4f07cb4e07cb4d07cb4c16134a07cb480b364707cb46052e45052e4407cb4307184207c94116123e07c93d07c93b07c93907c93616133407c93316133007c92f07cb2e06b42d07062c052e2b0d3707,
  0x10bbc313abb607cb7e07cb7607cb7507cb74052e6e07cb690be26607cb640e235b04f85707c95507c95407c95207c95107cb4f07cb4e07cb4d07cb4c16134a07cb480b364707cb46052e45052e4407cb4307184207c94116123e07c93d07c93b07c93907c93616133407c93316133007c92f07cb2e06b42d07072c052e2b0d3707,
  0x10bbc313abb607cb7e07cb7607cb7507cb74052e6e07cb690be26607cb640e235b04f85707c95507c95407c95207c95107cb4f07cb4e07cb4d07cb4c16134a07cb480b364707cb46052e45052e4407cb4307184207c94116123e07c93d07c93b07c93907c93616133407c93316133007c92f07cb2e06b42d07082c052e2b0d3707,
  0x10bbc313abb607cb7e07cb7607cb7507cb74052e6e07cb690be26607cb640e235b04f85707c95507c95407c95207c95107cb4f07cb4e07cb4d07cb4c16134a07cb480b364707cb46052e45052e4407cb4307184207c94116123e07c93d07c93b07c93907c93616133407c93316133007c92f07cb2e06b42d07092c052e2b0d3707,
  0x10bbc313abb607cb7e07cb7607cb7507cb74052e6e07cb690be26607cb640e235b04f85707c95507c95407c95207c95107cb4f07cb4e07cb4d07cb4c16134a07cb480b364707cb46052e45052e4407cb4307184207c94116123e07c93d07c93b07c93907c93616133407c93316133007c92f07cb2e06b42d070a2c052e2b0d3707,
  0x10bbc313abb607cb7e07cb7607cb7507cb74052e6e07cb690be26607cb640e235b04f85707c95507c95407c95207c95107cb4f07cb4e07cb4d07cb4c16134a07cb480b364707cb46052e45052e4407cb4307184207c94116123e07c93d07c93b07c93907c93616133407c93316133007c92f07cb2e06b42d070c2c052e2b0d3707,
  0x10bbc313abb607cb7e07cb7607cb7507cb74052e6e07cb690be26607cb640e235b04f85707c95507c95407c95207c95107cb4f07cb4e07cb4d07cb4c16134a07cb480b364707cb46052e45052e4407cb4307184207c94116123e07c93d07c93b07c93907c93616133407c93316133007c92f07cb2e06b42d07102c052e2b0d3707,
  0x10bbc313abb607cb7e07cb7607cb7507cb74052e6e07cb690be26607cb640e235b04f85707c95507c95407c95207c95107cb4f07cb4e07cb4d07cb4c16134a07cb480b364707cb46052e45052e4407cb4307184207c94116123e07c93d07c93b07c93907c93616133407c93316133007c92f07cb2e06b42d07112c052e2b0d3707,
  0x10bbc313abb607cb7e07cb7607cb7507cb74052e6e07cb690be26607cb640e235b04f85707c95507c95407c95207c95107cb4f07cb4e07cb4d07cb4c16134a07cb480b364707cb46052e45052e4407cb4307184207c94116123e07c93d07c93b07c93907c93616133407c93316133007c92f07cb2e06b42d07122c052e2b0d3707,
  0x1132c313abb606277e06277606277506277405836e0627690c30660627640e235b04f85706265506265406265206265106274f06274e06274d06274c161d4a0627480b334706274605834505834406274305c34206264115e63e06263d06263b062639062636161d34062633161d3006262f06272e05b42d09642c05832b0dee07,
  0x1132c313abb606277e06277606277506277405556e0627690c30660627640e235b04f85706265506265406265206265106274f06274e06274d06274c16074a0627480b2d4706274605554505554406274305c34206264115d63e06263d06263b06263906263616073406263316073006262f06272e05b42d08c42c05552b0dee07,
  0x1132c313abb606277e06277606277506277405556e0627690c30660627640e235b04f85706265506265406265206265106274f06274e06274d06274c16074a0627480b2d4706274605554505554406274305c34206264115d63e06263d06263b06263906263616073406263316073006262f06272e05b42d08c52c05552b0dee07,
  0x1132c313abb606277e06277606277506277405556e0627690c30660627640e235b04f85706265506265406265206265106274f06274e06274d06274c16074a0627480b2d4706274605554505554406274305c34206264115d63e06263d06263b06263906263616073406263316073006262f06272e05b42d08c62c05552b0dee07,
  0x1132c313abb606277e06277606277506277405556e0627690c30660627640e235b04f85706265506265406265206265106274f06274e06274d06274c16074a0627480b2d4706274605554505554406274305c34206264115d63e06263d06263b06263906263616073406263316073006262f06272e05b42d08c82c05552b0dee07,
  0x1132c313abb606277e06277606277506277405556e0627690c30660627640e235b04f85706265506265406265206265106274f06274e06274d06274c16074a0627480b2d4706274605554505554406274305c34206264115d63e06263d06263b06263906263616073406263316073006262f06272e05b42d08c92c05552b0dee07,
  0x1132c313abb606277e06277606277506277405556e0627690c30660627640e235b04f85706265506265406265206265106274f06274e06274d06274c16074a0627480b2d4706274605554505554406274305c34206264115d63e06263d06263b06263906263616073406263316073006262f06272e05b42d08ca2c05552b0dee07,
  0x1132c313abb606277e06277606277506277405556e0627690c30660627640e235b04f85706265506265406265206265106274f06274e06274d06274c16074a0627480b2d4706274605554505554406274305c34206264115d63e06263d06263b06263906263616073406263316073006262f06272e05b42d08cb2c05552b0dee07,
  0x1132c313abb606277e06277606277506277405556e0627690c30660627640e235b04f85706265506265406265206265106274f06274e06274d06274c16074a0627480b2d4706274605554505554406274305c34206264115d63e06263d06263b06263906263616073406263316073006262f06272e05b42d08cc2c05552b0dee07,
  0x1132c313abb606277e06277606277506277405556e0627690c30660627640e235b04f85706265506265406265206265106274f06274e06274d06274c16074a0627480b2d4706274605554505554406274305c34206264115d63e06263d06263b06263906263616073406263316073006262f06272e05b42d08cd2c05552b0dee07,
  0x1132c313abb606277e06277606277506277405556e0627690c30660627640e235b04f85706265506265406265206265106274f06274e06274d06274c16074a0627480b2d4706274605554505554406274305c34206264115d63e06263d06263b06263906263616073406263316073006262f06272e05b42d08ce2c05552b0dee07,
  0x1132c313abb606277e06277606277506277405556e0627690c30660627640e235b04f85706265506265406265206265106274f06274e06274d06274c16074a0627480b2d4706274605554505554406274305c34206264115d63e06263d06263b06263906263616073406263316073006262f06272e05b42d08cf2c05552b0dee07,
  0x1132c313abb606277e06277606277506277405556e0627690c30660627640e235b04f85706265506265406265206265106274f06274e06274d06274c16074a0627480b2d4706274605554505554406274305c34206264115d63e06263d06263b06263906263616073406263316073006262f06272e05b42d08d02c05552b0dee07,
  0x1132c313abb606277e06277606277506277405556e0627690c30660627640e235b04f85706265506265406265206265106274f06274e06274d06274c16074a0627480b2d4706274605554505554406274305c34206264115d63e06263d06263b06263906263616073406263316073006262f06272e05b42d08d12c05552b0dee07,
  0x1132c313abb606277e06277606277506277405556e0627690c30660627640e235b04f85706265506265406265206265106274f06274e06274d06274c16074a0627480b2d4706274605554505554406274305c34206264115d63e06263d06263b06263906263616073406263316073006262f06272e05b42d08d22c05552b0dee07,
  0x1132c313abb606277e06277606277506277405556e0627690c30660627640e235b04f85706265506265406265206265106274f06274e06274d06274c16074a0627480b2d4706274605554505554406274305c34206264115d63e06263d06263b06263906263616073406263316073006262f06272e05b42d08d32c05552b0dee07,
  0x1132c313abb606277e06277606277506277405556e0627690c30660627640e235b04f85706265506265406265206265106274f06274e06274d06274c16074a0627480b2d4706274605554505554406274305c34206264115d63e06263d06263b06263906263616073406263316073006262f06272e05b42d08d52c05552b0dee07,
  0x1132c313abb606277e06277606277506277405556e0627690c30660627640e235b04f85706265506265406265206265106274f06274e06274d06274c16074a0627480b2d4706274605554505554406274305c34206264115d63e06263d06263b06263906263616073406263316073006262f06272e05b42d08d92c05552b0dee07,
  0x1132c313abb606277e06277606277506277405556e0627690c30660627640e235b04f85706265506265406265206265106274f06274e06274d06274c16074a0627480b2d4706274605554505554406274305c34206264115d63e06263d06263b06263906263616073406263316073006262f06272e05b42d08da2c05552b0dee07,
  0x1132c313abb606277e06277606277506277405556e0627690c30660627640e235b04f85706265506265406265206265106274f06274e06274d06274c16074a0627480b2d4706274605554505554406274305c34206264115d63e06263d06263b06263906263616073406263316073006262f06272e05b42d08db2c05552b0dee07,
  0x1132c313abb606277e06277606277506277405556e0627690c30660627640e235b04f85706265506265406265206265106274f06274e06274d06274c16074a0627480b2d4706274605554505554406274305c34206264115d63e06263d06263b06263906263616073406263316073006262f06272e05b42d08dd2c05552b0dee07,
  0x1132c313abb606277e06277606277506277405876e0627690c30660627640e235b04f85706265506265406265206265106274f06274e06274d06274c15da4a0627480b284706274605874505874406274305c34206264115cd3e06263d06263b06263906263615da3406263315da3006262f06272e05b42d09de2c05872b0dee07,
  0x1132c313abb606277e06277606277506277405556e0627690c30660627640e235b04f85706265506265406265206265106274f06274e06274d06274c16074a0627480b2d4706274605554505554406274305c34206264115d63e06263d06263b06263906263616073406263316073006262f06272e05b42d09b42c05552b0dee07,
  0x1132c313abb606277e06277606277506277405826e0627690c30660627640e235b04f85706265506265406265206265106274f06274e06274d06274c161b4a0627480b2e4706274605824505824406274305c34206264115de3e06263d06263b062639062636161b34062633161b3006262f06272e05b42d092c2c05822b0dee07,
  0x1132c313abb606277e06277606277506277405826e0627690c30660627640e235b04f85706265506265406265206265106274f06274e06274d06274c161b4a0627480b2e4706274605824505824406274305c34206264115de3e06263d06263b062639062636161b34062633161b3006262f06272e05b42d092d2c05822b0dee07,
  0x1132c313abb606277e06277606277506277405826e0627690c30660627640e235b04f85706265506265406265206265106274f06274e06274d06274c161b4a0627480b2e4706274605824505824406274305c34206264115de3e06263d06263b062639062636161b34062633161b3006262f06272e05b42d092e2c05822b0dee07,
  0x1132c313abb606277e06277606277506277405826e0627690c30660627640e235b04f85706265506265406265206265106274f06274e06274d06274c161b4a0627480b2e4706274605824505824406274305c34206264115de3e06263d06263b062639062636161b34062633161b3006262f06272e05b42d09302c05822b0dee07,
  0x1132c313abb606277e06277606277506277405826e0627690c30660627640e235b04f85706265506265406265206265106274f06274e06274d06274c161b4a0627480b2e4706274605824505824406274305c34206264115de3e06263d06263b062639062636161b34062633161b3006262f06272e05b42d09312c05822b0dee07,
  0x1132c313abb606277e06277606277506277405826e0627690c30660627640e235b04f85706265506265406265206265106274f06274e06274d06274c161b4a0627480b2e4706274605824505824406274305c34206264115de3e06263d06263b062639062636161b34062633161b3006262f06272e05b42d09322c05822b0dee07,
  0x1132c313abb606277e06277606277506277405826e0627690c30660627640e235b04f85706265506265406265206265106274f06274e06274d06274c161b4a0627480b2e4706274605824505824406274305c34206264115de3e06263d06263b062639062636161b34062633161b3006262f06272e05b42d09332c05822b0dee07,
  0x1132c313abb606277e06277606277506277405826e0627690c30660627640e235b04f85706265506265406265206265106274f06274e06274d06274c161b4a0627480b2e4706274605824505824406274305c34206264115de3e06263d06263b062639062636161b34062633161b3006262f06272e05b42d09342c05822b0dee07,
  0x1132c313abb606277e06277606277506277405826e0627690c30660627640e235b04f85706265506265406265206265106274f06274e06274d06274c161b4a0627480b2e4706274605824505824406274305c34206264115de3e06263d06263b062639062636161b34062633161b3006262f06272e05b42d09352c05822b0dee07,
  0x1132c313abb606277e06277606277506277405826e0627690c30660627640e235b04f85706265506265406265206265106274f06274e06274d06274c161b4a0627480b2e4706274605824505824406274305c34206264115de3e06263d06263b062639062636161b34062633161b3006262f06272e05b42d09362c05822b0dee07,
  0x1132c313abb606277e06277606277506277405826e0627690c30660627640e235b04f85706265506265406265206265106274f06274e06274d06274c161b4a0627480b2e4706274605824505824406274305c34206264115de3e06263d06263b062639062636161b34062633161b3006262f06272e05b42d09372c05822b0dee07,
  0x1132c313abb606277e06277606277506277405826e0627690c30660627640e235b04f85706265506265406265206265106274f06274e06274d06274c161b4a0627480b2e4706274605824505824406274305c34206264115de3e06263d06263b062639062636161b34062633161b3006262f06272e05b42d09382c05822b0dee07]

/-- The rows of successors 448 to 511. -/
def gotos7 : Array Nat := #[
  0x1132c313abb606277e06277606277506277405826e0627690c30660627640e235b04f85706265506265406265206265106274f06274e06274d06274c161b4a0627480b2e4706274605824505824406274305c34206264115de3e06263d06263b062639062636161b34062633161b3006262f06272e05b42d09392c05822b0dee07,
  0x1132c313abb606277e06277606277506277405826e0627690c30660627640e235b04f85706265506265406265206265106274f06274e06274d06274c161b4a0627480b2e4706274605824505824406274305c34206264115de3e06263d06263b062639062636161b34062633161b3006262f06272e05b42d093a2c05822b0dee07,
  0x1132c313abb606277e06277606277506277405826e0627690c30660627640e235b04f85706265506265406265206265106274f06274e06274d06274c161b4a0627480b2e4706274605824505824406274305c34206264115de3e06263d06263b062639062636161b34062633161b3006262f06272e05b42d093b2c05822b0dee07,
  0x1132c313abb606277e06277606277506277405826e0627690c30660627640e235b04f85706265506265406265206265106274f06274e06274d06274c161b4a0627480b2e4706274605824505824406274305c34206264115de3e06263d06263b062639062636161b34062633161b3006262f06272e05b42d093d2c05822b0dee07,
  0x1132c313abb606277e06277606277506277405826e0627690c30660627640e235b04f85706265506265406265206265106274f06274e06274d06274c161b4a0627480b2e4706274605824505824406274305c34206264115de3e06263d06263b062639062636161b34062633161b3006262f06272e05b42d09412c05822b0dee07,
  0x1132c313abb606277e06277606277506277405826e0627690c30660627640e235b04f85706265506265406265206265106274f06274e06274d06274c161b4a0627480b2e4706274605824505824406274305c34206264115de3e06263d06263b062639062636161b34062633161b3006262f06272e05b42d09422c05822b0dee07,
  0x1132c313abb606277e06277606277506277405826e0627690c30660627640e235b04f85706265506265406265206265106274f06274e06274d06274c161b4a0627480b2e4706274605824505824406274305c34206264115de3e06263d06263b062639062636161b34062633161b3006262f06272e05b42d09432c05822b0dee07,
  0x1132c313abb606277e06277606277506277405826e0627690c30660627640e235b04f85706265506265406265206265106274f06274e06274d06274c161b4a0627480b2e4706274605824505824406274305c34206264115de3e06263d06263b062639062636161b34062633161b3006262f06272e05b42d09452c05822b0dee07,
  0x1132c313abb606277e06277606277506277405886e0627690c30660627640e235b04f85706265506265406265206265106274f06274e06274d06274c15e24a0627480b284706274605884505884406274305c34206264115cd3e06263d06263b06263906263615e23406263315e23006262f06272e05b42d09de2c05882b0dee07,
  0x1132c313abb606277e06277606277506277405556e0627690c30660627640e235b04f85706265506265406265206265106274f06274e06274d06274c16074a0627480b2d4706274605554505554406274305c34206264115d63e06263d06263b06263906263616073406263316073006262f06272e05b42d09b52c05552b0dee07,
  0x1132c313abb606277e06277606277506277405836e0627690c30660627640e235b04f85706265506265406265206265106274f06274e06274d06274c161d4a0627480b334706274605834505834406274305c34206264115e63e06263d06263b062639062636161d34062633161d3006262f06272e05b42d09492c05832b0dee07,
  0x1132c313abb606277e06277606277506277405836e0627690c30660627640e235b04f85706265506265406265206265106274f06274e06274d06274c161d4a0627480b334706274605834505834406274305c34206264115e63e06263d06263b062639062636161d34062633161d3006262f06272e05b42d094a2c05832b0dee07,
  0x1132c313abb606277e06277606277506277405836e0627690c30660627640e235b04f85706265506265406265206265106274f06274e06274d06274c161d4a0627480b334706274605834505834406274305c34206264115e63e06263d06263b062639062636161d34062633161d3006262f06272e05b42d094b2c05832b0dee07,
  0x1132c313abb606277e06277606277506277405836e0627690c30660627640e235b04f85706265506265406265206265106274f06274e06274d06274c161d4a0627480b334706274605834505834406274305c34206264115e63e06263d06263b062639062636161d34062633161d3006262f06272e05b42d094d2c05832b0dee07,
  0x1132c313abb606277e06277606277506277405836e0627690c30660627640e235b04f85706265506265406265206265106274f06274e06274d06274c161d4a0627480b334706274605834505834406274305c34206264115e63e06263d06263b062639062636161d34062633161d3006262f06272e05b42d094e2c05832b0dee07,
  0x1132c313abb606277e06277606277506277405836e0627690c30660627640e235b04f85706265506265406265206265106274f06274e06274d06274c161d4a0627480b334706274605834505834406274305c34206264115e63e06263d06263b062639062636161d34062633161d3006262f06272e05b42d094f2c05832b0dee07,
  0x1132c313abb606277e06277606277506277405836e0627690c30660627640e235b04f85706265506265406265206265106274f06274e06274d06274c161d4a0627480b334706274605834505834406274305c34206264115e63e06263d06263b062639062636161d34062633161d3006262f06272e05b42d09502c05832b0dee07,
  0x1132c313abb606277e06277606277506277405836e0627690c30660627640e235b04f85706265506265406265206265106274f06274e06274d06274c161d4a0627480b334706274605834505834406274305c34206264115e63e06263d06263b062639062636161d34062633161d3006262f06272e05b42d09512c05832b0dee07,
  0x1132c313abb606277e06277606277506277405836e0627690c30660627640e235b04f85706265506265406265206265106274f06274e06274d06274c161d4a0627480b334706274605834505834406274305c34206264115e63e06263d06263b062639062636161d34062633161d3006262f06272e05b42d09522c05832b0dee07,
  0x1132c313abb606277e06277606277506277405836e0627690c30660627640e235b04f85706265506265406265206265106274f06274e06274d06274c161d4a0627480b334706274605834505834406274305c34206264115e63e06263d06263b062639062636161d34062633161d3006262f06272e05b42d09532c05832b0dee07,
  0x1132c313abb606277e06277606277506277405836e0627690c30660627640e235b04f85706265506265406265206265106274f06274e06274d06274c161d4a0627480b334706274605834505834406274305c34206264115e63e06263d06263b062639062636161d34062633161d3006262f06272e05b42d09542c05832b0dee07,
  0x1132c313abb606277e06277606277506277405836e0627690c30660627640e235b04f85706265506265406265206265106274f06274e06274d06274c161d4a0627480b334706274605834505834406274305c34206264115e63e06263d06263b062639062636161d34062633161d3006262f06272e05b42d09552c05832b0dee07,
  0x1132c313abb606277e06277606277506277405836e0627690c30660627640e235b04f85706265506265406265206265106274f06274e06274d06274c161d4a0627480b334706274605834505834406274305c34206264115e63e06263d06263b062639062636161d34062633161d3006262f06272e05b42d09562c05832b0dee07,
  0x1132c313abb606277e06277606277506277405836e0627690c30660627640e235b04f85706265506265406265206265106274f06274e06274d06274c161d4a0627480b334706274605834505834406274305c34206264115e63e06263d06263b062639062636161d34062633161d3006262f06272e05b42d09572c05832b0dee07,
  0x1132c313abb606277e06277606277506277405836e0627690c30660627640e235b04f85706265506265406265206265106274f06274e06274d06274c161d4a0627480b334706274605834505834406274305c34206264115e63e06263d06263b062639062636161d34062633161d3006262f06272e05b42d09582c05832b0dee07,
  0x1132c313abb606277e06277606277506277405836e0627690c30660627640e235b04f85706265506265406265206265106274f06274e06274d06274c161d4a0627480b334706274605834505834406274305c34206264115e63e06263d06263b062639062636161d34062633161d3006262f06272e05b42d095a2c05832b0dee07,
  0x1132c313abb606277e06277606277506277405836e0627690c30660627640e235b04f85706265506265406265206265106274f06274e06274d06274c161d4a0627480b334706274605834505834406274305c34206264115e63e06263d06263b062639062636161d34062633161d3006262f06272e05b42d095e2c05832b0dee07,
  0x1132c313abb606277e06277606277506277405836e0627690c30660627640e235b04f85706265506265406265206265106274f06274e06274d06274c161d4a0627480b334706274605834505834406274305c34206264115e63e06263d06263b062639062636161d34062633161d3006262f06272e05b42d095f2c05832b0dee07,
  0x1132c313abb606277e06277606277506277405836e0627690c30660627640e235b04f85706265506265406265206265106274f06274e06274d06274c161d4a0627480b334706274605834505834406274305c34206264115e63e06263d06263b062639062636161d34062633161d3006262f06272e05b42d09602c05832b0dee07,
  0x1132c313abb606277e06277606277506277405836e0627690c30660627640e235b04f85706265506265406265206265106274f06274e06274d06274c161d4a0627480b334706274605834505834406274305c34206264115e63e06263d06263b062639062636161d34062633161d3006262f06272e05b42d09622c05832b0dee07,
  0x1132c313abb606277e06277606277506277405896e0627690c30660627640e235b04f85706265506265406265206265106274f06274e06274d06274c15ea4a0627480b284706274605894505894406274305c34206264115cd3e06263d06263b06263906263615ea3406263315ea3006262f06272e05b42d09de2c05892b0dee07,
  0x1132c313abb606277e06277606277506277405556e0627690c30660627640e235b04f85706265506265406265206265106274f06274e06274d06274c16074a0627480b2d4706274605554505554406274305c34206264115d63e06263d06263b06263906263616073406263316073006262f06272e05b42d09b62c05552b0dee07,
  0x10bbc313abb607cb7e07cb7607cb7507cb7405516e07cb690be26607cb640e235b04f85707c95507c95407c95207c95107cb4f07cb4e07cb4d07cb4c15ef4a07cb480b344707cb4605514505514407cb4307184207c94115ee3e07c93d07c93b07c93907c93615ef3407c93315ef3007c92f07cb2e06b42d08b82c05512b0d3707,
  0x10bbc313abb607cb7e07cb7607cb7507cb7405516e07cb690be26607cb640e235b04f85707c95507c95407c95207c95107cb4f07cb4e07cb4d07cb4c15ef4a07cb480b344707cb4605514505514407cb4307184207c94115ee3e07c93d07c93b07c93907c93615ef3407c93315ef3007c92f07cb2e06b42d08ba2c05512b0d3707,
  0x1132c313abb606277e062776062775062774054b6e0627690c30660627640e235b04f85706265506265406265206265106274f06274e06274d06274c16104a0627480b3547062746054b45054b4406274305c34206264116063e06263d06263b06263906263616103406263316103006262f06272e05b42d07c82c054b2b0dee07,
  0x1132c313abb606277e062776062775062774054b6e0627690c30660627640e235b04f85706265506265406265206265106274f06274e06274d06274c16104a0627480b3547062746054b45054b4406274305c34206264116063e06263d06263b06263906263616103406263316103006262f06272e05b42d07ad2c054b2b0dee07,
  0x1132c313abb606277e062776062775062774054b6e0627690c30660627640e235b04f85706265506265406265206265106274f06274e06274d06274c16104a0627480b3547062746054b45054b4406274305c34206264116063e06263d06263b06263906263616103406263316103006262f06272e05b42d07ae2c054b2b0dee07,
  0x1132c313abb606277e062776062775062774054b6e0627690c30660627640e235b04f85706265506265406265206265106274f06274e06274d06274c16104a0627480b3547062746054b45054b4406274305c34206264116063e06263d06263b06263906263616103406263316103006262f06272e05b42d07af2c054b2b0dee07,
  0x1132c313abb606277e062776062775062774054b6e0627690c30660627640e235b04f85706265506265406265206265106274f06274e06274d06274c16104a0627480b3547062746054b45054b4406274305c34206264116063e06263d06263b06263906263616103406263316103006262f06272e05b42d07b12c054b2b0dee07,
  0x1132c313abb606277e062776062775062774054b6e0627690c30660627640e235b04f85706265506265406265206265106274f06274e06274d06274c16104a0627480b3547062746054b45054b4406274305c34206264116063e06263d06263b06263906263616103406263316103006262f06272e05b42d07b22c054b2b0dee07,
  0x1132c313abb606277e062776062775062774054b6e0627690c30660627640e235b04f85706265506265406265206265106274f06274e06274d06274c16104a0627480b3547062746054b45054b4406274305c34206264116063e06263d06263b06263906263616103406263316103006262f06272e05b42d07b32c054b2b0dee07,
  0x1132c313abb606277e062776062775062774054b6e0627690c30660627640e235b04f85706265506265406265206265106274f06274e06274d06274c16104a0627480b3547062746054b45054b4406274305c34206264116063e06263d06263b06263906263616103406263316103006262f06272e05b42d07b42c054b2b0dee07,
  0x1132c313abb606277e062776062775062774054b6e0627690c30660627640e235b04f85706265506265406265206265106274f06274e06274d06274c16104a0627480b3547062746054b45054b4406274305c34206264116063e06263d06263b06263906263616103406263316103006262f06272e05b42d07b52c054b2b0dee07,
  0x1132c313abb606277e062776062775062774054b6e0627690c30660627640e235b04f85706265506265406265206265106274f06274e06274d06274c16104a0627480b3547062746054b45054b4406274305c34206264116063e06263d06263b06263906263616103406263316103006262f06272e05b42d07b62c054b2b0dee07,
  0x1132c313abb606277e062776062775062774054b6e0627690c30660627640e235b04f85706265506265406265206265106274f06274e06274d06274c16104a0627480b3547062746054b45054b4406274305c34206264116063e06263d06263b06263906263616103406263316103006262f06272e05b42d07b72c054b2b0dee07,
  0x1132c313abb606277e062776062775062774054b6e0627690c30660627640e235b04f85706265506265406265206265106274f06274e06274d06274c16104a0627480b3547062746054b45054b4406274305c34206264116063e06263d06263b06263906263616103406263316103006262f06272e05b42d07b82c054b2b0dee07,
  0x1132c313abb606277e062776062775062774054b6e0627690c30660627640e235b04f85706265506265406265206265106274f06274e06274d06274c16104a0627480b3547062746054b45054b4406274305c34206264116063e06263d06263b06263906263616103406263316103006262f06272e05b42d07b92c054b2b0dee07,
  0x1132c313abb606277e062776062775062774054b6e0627690c30660627640e235b04f85706265506265406265206265106274f06274e06274d06274c16104a0627480b3547062746054b45054b4406274305c34206264116063e06263d06263b06263906263616103406263316103006262f06272e05b42d07ba2c054b2b0dee07,
  0x1132c313abb606277e062776062775062774054b6e0627690c30660627640e235b04f85706265506265406265206265106274f06274e06274d06274c16104a0627480b3547062746054b45054b4406274305c34206264116063e06263d06263b06263906263616103406263316103006262f06272e05b42d07bb2c054b2b0dee07,
  0x1132c313abb606277e062776062775062774054b6e0627690c30660627640e235b04f85706265506265406265206265106274f06274e06274d06274c16104a0627480b3547062746054b45054b4406274305c34206264116063e06263d06263b06263906263616103406263316103006262f06272e05b42d07bc2c054b2b0dee07,
  0x1132c313abb606277e062776062775062774054b6e0627690c30660627640e235b04f85706265506265406265206265106274f06274e06274d06274c16104a0627480b3547062746054b45054b4406274305c34206264116063e06263d06263b06263906263616103406263316103006262f06272e05b42d07be2c054b2b0dee07,
  0x1132c313abb606277e062776062775062774054b6e0627690c30660627640e235b04f85706265506265406265206265106274f06274e06274d06274c16104a0627480b3547062746054b45054b4406274305c34206264116063e06263d06263b06263906263616103406263316103006262f06272e05b42d07c22c054b2b0dee07,
  0x1132c313abb606277e062776062775062774054b6e0627690c30660627640e235b04f85706265506265406265206265106274f06274e06274d06274c16104a0627480b3547062746054b45054b4406274305c34206264116063e06263d06263b06263906263616103406263316103006262f06272e05b42d07c32c054b2b0dee07,
  0x1132c313abb606277e062776062775062774054b6e0627690c30660627640e235b04f85706265506265406265206265106274f06274e06274d06274c16104a0627480b3547062746054b45054b4406274305c34206264116063e06263d06263b06263906263616103406263316103006262f06272e05b42d07c42c054b2b0dee07,
  0x1132c313abb606277e062776062775062774054b6e0627690c30660627640e235b04f85706265506265406265206265106274f06274e06274d06274c16104a0627480b3547062746054b45054b4406274305c34206264116063e06263d06263b06263906263616103406263316103006262f06272e05b42d07c62c054b2b0dee07,
  0x1132c313abb606277e062776062775062774058b6e0627690c30660627640e235b04f85706265506265406265206265106274f06274e06274d06274c160b4a0627480b2847062746058b45058b4406274305c34206264115cd3e06263d06263b062639062636160b34062633160b3006262f06272e05b42d09de2c058b2b0dee07,
  0x1132c313abb606277e06277606277506277405556e0627690c30660627640e235b04f85706265506265406265206265106274f06274e06274d06274c16074a0627480b2d4706274605554505554406274305c34206264115d63e06263d06263b06263906263616073406263316073006262f06272e05b42d09b92c05552b0dee07,
  0x10bbc313abb607cb7e07cb7607cb7507cb74052e6e07cb690be26607cb640e235b04f85707c95507c95407c95207c95107cb4f07cb4e07cb4d07cb4c16134a07cb480b364707cb46052e45052e4407cb4307184207c94116123e07c93d07c93b07c93907c93616133407c93316133007c92f07cb2e06b42d07142c052e2b0d3707,
  0x1132c313abb606277e06277606277506277405556e0627690c30660627640e235b04f85706265506265406265206265106274f06274e06274d06274c16074a0627480b2d4706274605554505554406274305c34206264115d63e06263d06263b06263906263616073406263316073006262f06272e05b42d08df2c05552b0dee07,
  0x1132c313abb606277e06277606277506277405826e0627690c30660627640e235b04f85706265506265406265206265106274f06274e06274d06274c161b4a0627480b2e4706274605824505824406274305c34206264115de3e06263d06263b062639062636161b34062633161b3006262f06272e05b42d09472c05822b0dee07,
  0x1132c313abb606277e062776062775062774058a6e0627690c30660627640e235b04f85706265506265406265206265106274f06274e06274d06274c15f44a0627480b2847062746058a45058a4406274305c34206264115cd3e06263d06263b06263906263615f43406263315f43006262f06272e05b42d09de2c058a2b0dee07,
  0x1132c313abb606277e06277606277506277405556e0627690c30660627640e235b04f85706265506265406265206265106274f06274e06274d06274c16074a0627480b2d4706274605554505554406274305c34206264115d63e06263d06263b06263906263616073406263316073006262f06272e05b42d09b82c05552b0dee07,
  0x1132c313abb606277e062776062775062774058c6e0627690c30660627640e235b04f85706265506265406265206265106274f06274e06274d06274c16174a0627480b2847062746058c45058c4406274305c34206264115cd3e06263d06263b06263906263616173406263316173006262f06272e05b42d09de2c058c2b0dee07,
  0x1132c313abb606277e06277606277506277405556e0627690c30660627640e235b04f85706265506265406265206265106274f06274e06274d06274c16074a0627480b2d4706274605554505554406274305c34206264115d63e06263d06263b06263906263616073406263316073006262f06272e05b42d09ba2c05552b0dee07]

/-- The rows of successors 512 to 575. -/
def gotos8 : Array Nat := #[
  0x1166c91165c80ebfc303078703078403078203078003097e03077d03077c03077b03077104f85703073c03073a03073703071203071103080610b90313ad02,
  0x1166c9134dc80ebfc303078703078403078203078003097e03077d03077c03077b03077104f85703073c03073a03073703071203071103080610b90313ad02,
  0x1166c91165c813abb60e2e630e2e620e235b0e2e5114f03e,
  0x1166c9134dc813abb60e2e630e2e620e235b0e2e5114f03e,
  0x1166c91165c80ebfc303078703078403078203078003097e03077d03077c03077b03077104f85703073c03073a030737030712030711030e06,
  0x1166c9134dc80ebfc303078703078403078203078003097e03077d03077c03077b03077104f85703073c03073a030737030712030711030e06,
  0xebfc303078703078403078203078003097e03077d03077c03077b03077104f85703073c03073a03073703071203071103080610b90313ad02,
  0x1166c91165c80a53890e2e630e2e620e2e51, 0x1166c9134dc80a53890e2e630e2e620e2e51,
  0x1166c91165c80e2e630e2e620e2e51, 0x1166c9134dc80e2e630e2e620e2e51,
  0xebfc303078703078403078203078003097e03077d03077c03077b03077104f85703073c03073a030737030712030711030e06,
  0x1166c91165c8, 0x1166c9134dc8,
  0x10afc310068710068410068210068010087e10067d10067c10067b10067104f85710063c10063a100637100612100611100906,
  0x13abb60e235b15533e, 0x13abb60e235b15d13e, 0x13abb60e235b14f03e, 0x13abb60e235b16163e,
  0x13abb60e235b15e13e, 0x13abb60e235b160a3e, 0x31c2a02e329, 0x13abb60e235b15f33e,
  0x13abb60e235b15d93e, 0x13abb60e235b15e93e, 0x3362a, 0x37d14, 0x33215,
  0xae9c10ae6c00ae6bf0ae9be0ae6bd0ae6bc14d4b60ae6b30ae6b10ae6b00ae6af0ae6ae0aebad0ae6ac0ae6aa0ae6a90ae6a80ae6a10ae6a00ae99f0ae69e0aea9c0ae99b11939a1193991193981193971193960e43950add920c57910ac78113f25e15fb5b0ae751150d35139b07,
  0xae9c10ae6c00ae6bf0ae9be0ae6bd0ae6bc14d4b60ae6b30ae6b10ae6b00ae6af0ae6ae0aebad0ae6ac0ae6aa0ae6a90ae6a80ae6a10ae6a00ae99f0ae69e0aea9c0ae99b14389a1438991438981438971438960e43950add920c57910ac78113f25e15fb5b0ae751150d35139b07,
  0xae9c10ae6c00ae6bf0ae9be0ae6bd0ae6bc14d4b60ae6b30ae6b10ae6b00ae6af0ae6ae0aebad0ae6ac0ae6aa0ae6a90ae6a80ae6a10ae6a00ae99f0ae69e0aea9c0ae99b135c9a135c99135c98135c97135c960e43950add920c57910ac78113f25e15fb5b0ae751150d35139b07,
  0xae9c10ae6c00ae6bf0ae9be0ae6bd0ae6bc14d4b60ae6b30ae6b10ae6b00ae6af0ae6ae0aebad0ae6ac0ae6aa0ae6a90ae6a80ae6a10ae6a00ae99f0ae69e0aea9c0ae99b136f9a136f99136f98136f97136f960e43950add920c57910ac78113f25e15fb5b0ae751150d35139b07,
  0xae9c10ae6c00ae6bf0ae9be0ae6bd0ae6bc14d4b60ae6b30ae6b10ae6b00ae6af0ae6ae0aebad0ae6ac0ae6aa0ae6a90ae6a80ae6a10ae6a00ae99f0ae69e0aea9c0ae99b137c9a137c99137c98137c97137c960e43950add920c57910ac78113f25e15fb5b0ae751150d35139b07,
  0xae9c10ae6c00ae6bf0ae9be0ae6bd0ae6bc14d4b60ae6b30ae6b10ae6b00ae6af0ae6ae0aebad0ae6ac0ae6aa0ae6a90ae6a80ae6a10ae6a00ae99f0ae69e0aea9c0ae99b13849a1384991384981384971384960e43950add920c57910ac78113f25e15fb5b0ae751150d35139b07,
  0xae9c10ae6c00ae6bf0ae9be0ae6bd0ae6bc13cfb60ae6b30b3bb10ae6b00ae6af0ae6ae0aebad0ae6ac0ae6aa0ae6a90ae6a813d9a20ae6a10ae6a00ae99f0ae69e0aea9c0ae99b0c679513d8930c3d920ba5910ac781150e5b0ae751150d35117c07,
  0xae9c10ae6c00ae6bf0ae9be0ae6bd0ae6bc13cfb60ae6b30b3bb10ae6b00ae6af0ae6ae0aebad0ae6ac0ae6aa0ae6a90ae6a80afca20ae6a10ae6a00ae99f0ae69e0aea9c0ae99b0b68950afc930add920adc910ac781150e5b0ae751150d35117c07,
  0xae9c10ae6c00ae6bf0ae9be0ae6bd0ae6bc13cfb60ae6b30b3bb10ae6b00ae6af0ae6ae0aebad0ae6ac0ae6aa0ae6a90ae6a80b06a20ae6a10ae6a00ae99f0ae69e0aea9c0ae99b0b6f950b06930add920adc910ac781150e5b0ae751150d35117c07,
  0x74ac10746c00746bf074abe0746bd0746bc14bbb60746b306e8b10746b00746af0746ae074cad0746ac0746aa0746a90746a8076fa20746a10746a0074a9f07469e074b9c074a9b077095076f9307499206e39106e281155d5b07475115bf35135407,
  0x74ac10746c00746bf074abe0746bd0746bc14bbb60746b306e8b10746b00746af0746ae074cad0746ac0746aa0746a90746a80786a20746a10746a0074a9f07469e074b9c074a9b07879507869307499206e39106e281155d5b07475115bf35135407,
  0xbf1c10beec00beebf0bf1be0beebd0beebc14c3b60beeb30bcfb10beeb00beeaf0beeae0bf3ad0beeac0beeaa0beea90beea80c09a20beea10beea00bf19f0bee9e0bf29c0bf19b0c0a950c09930bca920b57910b788115745b0bef5115d435136b07,
  0xbf1c10beec00beebf0bf1be0beebd0beebc14c3b60beeb30bcfb10beeb00beeaf0beeae0bf3ad0beeac0beeaa0beea90beea80c13a20beea10beea00bf19f0bee9e0bf29c0bf19b0c14950c13930bca920b57910b788115745b0bef5115d435136b07,
  0x5dec105dac005dabf05debe05dabd05dabc14c6b605dab305c1b105dab005daaf05daae05e0ad05daac05daaa05daa905daa80600a205daa105daa005de9f05da9e05df9c05de9b06019506009305dd9205bd9105bc8115905b05db5115dc35137807,
  0x5dec105dac005dabf05debe05dabd05dabc14c6b605dab305c1b105dab005daaf05daae05e0ad05daac05daaa05daa905daa80616a205daa105daa005de9f05da9e05df9c05de9b06179506169305dd9205bd9105bc8115905b05db5115dc35137807,
  0xcb7c10cb4c00cb4bf0cb7be0cb4bd0cb4bc14c9b60cb4b30c47b10cb4b00cb4af0cb4ae0cb9ad0cb4ac0cb4aa0cb4a90cb4a80ccda20cb4a10cb4a00cb79f0cb49e0cb89c0cb79b0cce950ccd930c4c920bd5910c1f8115a05b0cb55115eb35138107,
  0xcb7c10cb4c00cb4bf0cb7be0cb4bd0cb4bc14c9b60cb4b30c47b10cb4b00cb4af0cb4ae0cb9ad0cb4ac0cb4aa0cb4a90cb4a80cd8a20cb4a10cb4a00cb79f0cb49e0cb89c0cb79b0cd9950cd8930c4c920bd5910c1f8115a05b0cb55115eb35138107,
  0xcb7c10cb4c00cb4bf0cb7be0cb4bd0cb4bc14c9b60cb4b30c47b10cb4b00cb4af0cb4ae0cb9ad0cb4ac0cb4aa0cb4a90cb4a81016a20cb4a10cb4a00cb79f0cb49e0cb89c0cb79b0d1c951015930cb0920bf4910c1f8115a05b0cb55115eb35138107,
  0xae9c10ae6c00ae6bf0ae9be0ae6bd0ae6bc14ceb60ae6b30e0fb10ae6b00ae6af0ae6ae0aebad0ae6ac0ae6aa0ae6a90ae6a80afca20ae6a10ae6a00ae99f0ae69e0aea9c0ae99b0e8a950afc930add920d06910ac78115c05b0ae751150d35139d07,
  0xae9c10ae6c00ae6bf0ae9be0ae6bd0ae6bc14ceb60ae6b30e0fb10ae6b00ae6af0ae6ae0aebad0ae6ac0ae6aa0ae6a90ae6a80b06a20ae6a10ae6a00ae99f0ae69e0aea9c0ae99b0e91950b06930add920d06910ac78115c05b0ae751150d35139d07,
  0xbf1c10beec00beebf0bf1be0beebd0beebc14c3b60beeb30bcfb10beeb00beeaf0beeae0bf3ad0beeac0beeaa0beea90beea80e77a20beea10beea00bf19f0bee9e0bf29c0bf19b0c46950e76930bea920b77910b788115745b0bef5115d435136b07,
  0xae9c10ae6c00ae6bf0ae9be0ae6bd0ae6bc14d4b60ae6b30d34b10ae6b00ae6af0ae6ae0aebad0ae6ac0ae6aa0ae6a90ae6a80afca20ae6a10ae6a00ae99f0ae69e0aea9c0ae99b0e10950afc930add920c57910ac78115fb5b0ae751150d35139b07,
  0xae9c10ae6c00ae6bf0ae9be0ae6bd0ae6bc14d4b60ae6b30d34b10ae6b00ae6af0ae6ae0aebad0ae6ac0ae6aa0ae6a90ae6a80b06a20ae6a10ae6a00ae99f0ae69e0aea9c0ae99b0e15950b06930add920c57910ac78115fb5b0ae751150d35139b07,
  0xae9c10ae6c00ae6bf0ae9be0ae6bd0ae6bc13cfb60ae6b30ae6b10ae6b00ae6af0ae6ae0aebad0ae6ac0ae6aa0ae6a90ae6a80ae6a10ae6a00ae99f0ae69e0aea9c0ae99b0e45950add920adc910ac781150e5b0ae751150d35117c07,
  0xae9c10ae6c00ae6bf0ae9be0ae6bd0ae6bc13cfb60ae6b30ae6b10ae6b00ae6af0ae6ae0aebad0ae6ac0ae6aa0ae6a90ae6a80ae6a10ae6a00ae99f0ae69e0aea9c0ae99b10ec950add920adc910ac781150e5b0ae751150d35117c07,
  0xae9c10ae6c00ae6bf0ae9be0ae6bd0ae6bc13cfb60ae6b30ae6b10ae6b00ae6af0ae6ae0aebad0ae6ac0ae6aa0ae6a90ae6a80ae6a10ae6a00ae99f0ae69e0aea9c0ae99b0e52950add920adc910ac781150e5b0ae751150d35117c07,
  0xae9c10ae6c00ae6bf0ae9be0ae6bd0ae6bc13cfb60ae6b30ae6b10ae6b00ae6af0ae6ae0aebad0ae6ac0ae6aa0ae6a90ae6a80ae6a10ae6a00ae99f0ae69e0aea9c0ae99b110f950add920adc910ac781150e5b0ae751150d35117c07,
  0xae9c10ae6c00ae6bf0ae9be0ae6bd0ae6bc13cfb60ae6b30ae6b10ae6b00ae6af0ae6ae0aebad0ae6ac0ae6aa0ae6a90ae6a80ae6a10ae6a00ae99f0ae69e0aea9c0ae99b1117950add920adc910ac781150e5b0ae751150d35117c07,
  0xae9c10ae6c00ae6bf0ae9be0ae6bd0ae6bc13cfb60ae6b30ae6b10ae6b00ae6af0ae6ae0aebad0ae6ac0ae6aa0ae6a90ae6a80ae6a10ae6a00ae99f0ae69e0aea9c0ae99b111f950add920adc910ac781150e5b0ae751150d35117c07,
  0xae9c10ae6c00ae6bf0ae9be0ae6bd0ae6bc13cfb60ae6b30ae6b10ae6b00ae6af0ae6ae0aebad0ae6ac0ae6aa0ae6a90ae6a80ae6a10ae6a00ae99f0ae69e0aea9c0ae99b1127950add920adc910ac781150e5b0ae751150d35117c07,
  0xae9c10ae6c00ae6bf0ae9be0ae6bd0ae6bc13cfb60ae6b30ae6b10ae6b00ae6af0ae6ae0aebad0ae6ac0ae6aa0ae6a90ae6a80ae6a10ae6a00ae99f0ae69e0aea9c0ae99b0e32950add920adc910ac781150e5b0ae751150d35117c07,
  0xae9c10ae6c00ae6bf0ae9be0ae6bd0ae6bc13cfb60ae6b30ae6b10ae6b00ae6af0ae6ae0aebad0ae6ac0ae6aa0ae6a90ae6a80ae6a10ae6a00ae99f0ae69e0aea9c0ae99b0e37950add920adc910ac781150e5b0ae751150d35117c07,
  0x74ac10746c00746bf074abe0746bd0746bc14bbb60746b30746b10746b00746af0746ae074cad0746ac0746aa0746a90746a80746a10746a0074a9f07469e074b9c074a9b07269507499206e39106e281155d5b07475115bf35135407,
  0x74ac10746c00746bf074abe0746bd0746bc14bbb60746b30746b10746b00746af0746ae074cad0746ac0746aa0746a90746a80746a10746a0074a9f07469e074b9c074a9b072a9507499206e39106e281155d5b07475115bf35135407,
  0xbf1c10beec00beebf0bf1be0beebd0beebc14c3b60beeb30beeb10beeb00beeaf0beeae0bf3ad0beeac0beeaa0beea90beea80beea10beea00bf19f0bee9e0bf29c0bf19b0edd950bca920b57910b788115745b0bef5115d435136b07,
  0xbf1c10beec00beebf0bf1be0beebd0beebc14c3b60beeb30beeb10beeb00beeaf0beeae0bf3ad0beeac0beeaa0beea90beea80beea10beea00bf19f0bee9e0bf29c0bf19b0c46950bea920b77910b788115745b0bef5115d435136b07]

/-- The rows of successors 576 to 639. -/
def gotos9 : Array Nat := #[
  0xae9c10ae6c00ae6bf0ae9be0ae6bd0ae6bc13cfb60ae6b30ae6b10ae6b00ae6af0ae6ae0aebad0ae6ac0ae6aa0ae6a90ae6a80ae6a10ae6a00ae99f0ae69e0aea9c0ae99b0aee950add920adc910ac781150e5b0ae751150d35117c07,
  0xae9c10ae6c00ae6bf0ae9be0ae6bd0ae6bc13cfb60ae6b30ae6b10ae6b00ae6af0ae6ae0aebad0ae6ac0ae6aa0ae6a90ae6a80ae6a10ae6a00ae99f0ae69e0aea9c0ae99b0b63950add920adc910ac781150e5b0ae751150d35117c07,
  0xae9c10ae6c00ae6bf0ae9be0ae6bd0ae6bc13cfb60ae6b30ae6b10ae6b00ae6af0ae6ae0aebad0ae6ac0ae6aa0ae6a90ae6a80ae6a10ae6a00ae99f0ae69e0af29c0ae99b1194950add920adc910ac781150e5b0ae751150d35117c07,
  0xae9c10ae6c00ae6bf0ae9be0ae6bd0ae6bc13cfb60ae6b30ae6b10ae6b00ae6af0ae6ae0aebad0ae6ac0ae6aa0ae6a90ae6a80ae6a10ae6a00ae99f0ae69e0af39c0ae99b1194950add920adc910ac781150e5b0ae751150d35117c07,
  0xae9c10ae6c00ae6bf0ae9be0ae6bd0ae6bc13cfb60ae6b30ae6b10ae6b00ae6af0ae6ae0aebad0ae6ac0ae6aa0ae6a90ae6a80ae6a10ae6a00ae99f0ae69e0aea9c0ae99b0eea950add920adc910ac781150e5b0ae751150d35117c07,
  0xbf1c10beec00beebf0bf1be0beebd0beebc14c3b60beeb30beeb10beeb00beeaf0beeae0bf3ad0beeac0beeaa0beea90beea80beea10beea00bf19f0bee9e0bf29c0bf19b0ef7950bca920b57910b788115745b0bef5115d435136b07,
  0xae9c10ae6c00ae6bf0ae9be0ae6bd0ae6bc13cfb60ae6b30ae6b10ae6b00ae6af0ae6ae0aebad0ae6ac0ae6aa0ae6a90ae6a80ae6a10ae6a010e99f0ae69e0f069c0ae99b1194950add920adc910ac781150e5b0ae751150d35117c07,
  0xae9c10ae6c00ae6bf0ae9be0ae6bd0ae6bc13cfb60ae6b30ae6b10ae6b00ae6af0ae6ae0aebad0ae6ac0ae6aa0ae6a90ae6a80ae6a10ae6a00ae99f0ae69e0aea9c0ae99b0afd950add920adc910ac781150e5b0ae751150d35117c07,
  0xae9c10ae6c00ae6bf0ae9be0ae6bd0ae6bc13cfb60ae6b30ae6b10ae6b00ae6af0ae6ae0aebad0ae6ac0ae6aa0ae6a90ae6a80ae6a10ae6a00ae99f0ae69e0aea9c0ae99b0b69950add920adc910ac781150e5b0ae751150d35117c07,
  0xae9c10ae6c00ae6bf0ae9be0ae6bd0ae6bc14d4b60ae6b30ae6b10ae6b00ae6af0ae6ae0aebad0ae6ac0ae6aa0ae6a90ae6a80ae6a10ae6a00ae99f0ae69e0aea9c0ae99b10ea950add920c57910ac78115fb5b0ae751150d35139b07,
  0xae9c10ae6c00ae6bf0ae9be0ae6bd0ae6bc13cfb60ae6b30ae6b10ae6b00ae6af0ae6ae0aebad0ae6ac0ae6aa0ae6a90ae6a80ae6a10ae6a00ae99f0ae69e0aea9c0ae99b0b6b950add920adc910ac781150e5b0ae751150d35117c07,
  0xae9c10ae6c00ae6bf0ae9be0ae6bd0ae6bc13cfb60ae6b30ae6b10ae6b00ae6af0ae6ae0aebad0ae6ac0ae6aa0ae6a90ae6a80ae6a10ae6a00ae99f0ae69e0aea9c0ae99b0b6c950add920adc910ac781150e5b0ae751150d35117c07,
  0xae9c10ae6c00ae6bf0ae9be0ae6bd0ae6bc13cfb60ae6b30ae6b10ae6b00ae6af0ae6ae0aebad0ae6ac0ae6aa0ae6a90ae6a80ae6a10ae6a00ae99f0ae69e0aea9c0ae99b10f2950add920adc910ac781150e5b0ae751150d35117c07,
  0xae9c10ae6c00ae6bf0ae9be0ae6bd0ae6bc14ceb60ae6b30ae6b10ae6b00ae6af0ae6ae0aebad0ae6ac0ae6aa0ae6a90ae6a80ae6a10ae6a00ae99f0ae69e0aea9c0ae99b0f10950add920d06910ac78115c05b0ae751150d35139d07,
  0xae9c10ae6c00ae6bf0ae9be0ae6bd0ae6bc13cfb60ae6b30ae6b10ae6b00ae6af0ae6ae0aebad0ae6ac0ae6aa0ae6a90ae6a80ae6a10ae6a00ae99f0ae69e0aea9c0ae99b10f3950add920adc910ac781150e5b0ae751150d35117c07,
  0xae9c10ae6c00ae6bf0ae9be0ae6bd0ae6bc13cfb60ae6b30ae6b10ae6b00ae6af0ae6ae0aebad0ae6ac0ae6aa0ae6a90ae6a80ae6a10ae6a00ae99f0ae69e0aea9c0ae99b0b04950add920adc910ac781150e5b0ae751150d35117c07,
  0xae9c10ae6c00ae6bf0ae9be0ae6bd0ae6bc13cfb60ae6b30ae6b10ae6b00ae6af0ae6ae0aebad0ae6ac0ae6aa0ae6a90ae6a80ae6a10ae6a00ae99f0ae69e0aea9c0ae99b0b6e950add920adc910ac781150e5b0ae751150d35117c07,
  0xbf1c10beec00beebf0bf1be0beebd0beebc14c3b60beeb30beeb10beeb00beeaf0beeae0bf3ad0beeac0beeaa0beea90beea80beea10beea00bf19f0bee9e0bf29c0bf19b0f27950bca920b57910b788115745b0bef5115d435136b07,
  0xbf1c10beec00beebf0bf1be0beebd0beebc14c3b60beeb30beeb10beeb00beeaf0beeae0bf3ad0beeac0beeaa0beea90beea80beea10beea00bf19f0bee9e0bf29c0bf19b0d12950bca920b57910b788115745b0bef5115d435136b07,
  0xbf1c10beec00beebf0bf1be0beebd0beebc14c3b60beeb30beeb10beeb00beeaf0beeae0bf3ad0beeac0beeaa0beea90beea80beea10beea00bf19f0bee9e0bf29c0bf19b0d13950bca920b57910b788115745b0bef5115d435136b07,
  0xbf1c10beec00beebf0bf1be0beebd0beebc14c3b60beeb30beeb10beeb00beeaf0beeae0bf3ad0beeac0beeaa0beea90beea80beea10beea00bf19f0bee9e0bf29c0bf19b0d14950bca920b57910b788115745b0bef5115d435136b07,
  0xae9c10ae6c00ae6bf0ae9be0ae6bd0ae6bc13cfb60ae6b30ae6b10ae6b00ae6af0ae6ae0aebad0ae6ac0ae6aa0ae6a90ae6a80ae6a10ae6a00ae99f0ae69e0aea9c0ae99b10f8950add920adc910ac781150e5b0ae751150d35117c07,
  0xae9c10ae6c00ae6bf0ae9be0ae6bd0ae6bc13cfb60ae6b30ae6b10ae6b00ae6af0ae6ae0aebad0ae6ac0ae6aa0ae6a90ae6a80ae6a10ae6a00ae99f0ae69e0aea9c0ae99b10f9950add920adc910ac781150e5b0ae751150d35117c07,
  0xae9c10ae6c00ae6bf0ae9be0ae6bd0ae6bc13cfb60ae6b30ae6b10ae6b00ae6af0ae6ae0aebad0ae6ac0ae6aa0ae6a90ae6a80ae6a10ae6a00ae99f0ae69e0aea9c0ae99b0b08950add920adc910ac781150e5b0ae751150d35117c07,
  0xae9c10ae6c00ae6bf0ae9be0ae6bd0ae6bc13cfb60ae6b30ae6b10ae6b00ae6af0ae6ae0aebad0ae6ac0ae6aa0ae6a90ae6a80ae6a10ae6a00ae99f0ae69e0aea9c0ae99b0b09950add920adc910ac781150e5b0ae751150d35117c07,
  0xae9c10ae6c00ae6bf0ae9be0ae6bd0ae6bc13cfb60ae6b30ae6b10ae6b00ae6af0ae6ae0aebad0ae6ac0ae6aa0ae6a90ae6a80ae6a10ae6a00ae99f0ae69e0aea9c0ae99b10fa950add920adc910ac781150e5b0ae751150d35117c07,
  0xae9c10ae6c00ae6bf0ae9be0ae6bd0ae6bc13cfb60ae6b30ae6b10ae6b00ae6af0ae6ae0aebad0ae6ac0ae6aa0ae6a90ae6a80ae6a10ae6a00ae99f0ae69e0aea9c0ae99b10fd950add920adc910ac781150e5b0ae751150d35117c07,
  0xae9c10ae6c00ae6bf0ae9be0ae6bd0ae6bc13cfb60ae6b30ae6b10ae6b00ae6af0ae6ae0aebad0ae6ac0ae6aa0ae6a90ae6a80ae6a10ae6a00ae99f0ae69e0aea9c0ae99b10fe950add920adc910ac781150e5b0ae751150d35117c07,
  0xae9c10ae6c00ae6bf0ae9be0ae6bd0ae6bc13cfb60ae6b30ae6b10ae6b00ae6af0ae6ae0aebad0ae6ac0ae6aa0ae6a90ae6a80ae6a10ae6a00ae99f0ae69e0aea9c0ae99b10ff950add920adc910ac781150e5b0ae751150d35117c07,
  0xae9c10ae6c00ae6bf0ae9be0ae6bd0ae6bc13cfb60ae6b30ae6b10ae6b00ae6af0ae6ae0aebad0ae6ac0ae6aa0ae6a90ae6a80ae6a10ae6a00ae99f0ae69e0aea9c0ae99b0b0a950add920adc910ac781150e5b0ae751150d35117c07,
  0xae9c10ae6c00ae6bf0ae9be0ae6bd0ae6bc13cfb60ae6b30ae6b10ae6b00ae6af0ae6ae0aebad0ae6ac0ae6aa0ae6a90ae6a80ae6a10ae6a00ae99f0ae69e0aea9c0ae99b0b75950add920adc910ac781150e5b0ae751150d35117c07,
  0x74ac10746c00746bf074abe0746bd0746bc14bbb60746b30746b10746b00746af0746ae074cad0746ac0746aa0746a90746a80746a10746a0074a9f07469e074b9c074a9b07549507499206e39106e281155d5b07475115bf35135407,
  0x74ac10746c00746bf074abe0746bd0746bc14bbb60746b30746b10746b00746af0746ae074cad0746ac0746aa0746a90746a80746a10746a0074a9f07469e074b9c074a9b07559507499206e39106e281155d5b07475115bf35135407,
  0x74ac10746c00746bf074abe0746bd0746bc14bbb60746b30746b10746b00746af0746ae074cad0746ac0746aa0746a90746a80746a10746a0074a9f07469e074b9c074a9b07599507499206e39106e281155d5b07475115bf35135407,
  0xae9c10746c00746bf0ae9be0746bd0746bc13cfb60746b30746b10746b00746af0746ae074cad0746ac0746aa0746a90746a80746a10746a00ae99f07469e075a9c0ae99b135d950add920adc9106e281150e5b07475115bf35117c07,
  0xae9c10746c00746bf0ae9be0746bd0746bc13cfb60746b30746b10746b00746af0746ae074cad0746ac0746aa0746a90746a80746a10746a00ae99f07469e075c9c0ae99b135d950add920adc9106e281150e5b07475115bf35117c07,
  0x74ac10746c00746bf074abe0746bd0746bc14bbb60746b30746b10746b00746af0746ae074cad0746ac0746aa0746a90746a80746a10746a0074a9f07469e074b9c074a9b07759507499206e39106e281155d5b07475115bf35135407,
  0x74ac10746c00746bf074abe0746bd0746bc14bbb60746b30746b10746b00746af0746ae074cad0746ac0746aa0746a90746a80746a10746a0074a9f07469e074b9c074a9b07769507499206e39106e281155d5b07475115bf35135407,
  0xcb7c10cb4c00cb4bf0cb7be0cb4bd0cb4bc14c9b60cb4b30cb4b10cb4b00cb4af0cb4ae0cb9ad0cb4ac0cb4aa0cb4a90cb4a80cb4a10cb4a00cb79f0cb49e0cb89c0cb79b0cad950c4c920bd5910c1f8115a05b0cb55115eb35138107,
  0xcb7c10cb4c00cb4bf0cb7be0cb4bd0cb4bc14c9b60cb4b30cb4b10cb4b00cb4af0cb4ae0cb9ad0cb4ac0cb4aa0cb4a90cb4a80cb4a10cb4a00cb79f0cb49e0cb89c0cb79b0cae950c4c920bd5910c1f8115a05b0cb55115eb35138107,
  0x74ac10746c00746bf074abe0746bd0746bc14bbb60746b30746b10746b00746af0746ae074cad0746ac0746aa0746a90746a80746a10746a0074a9f07469e074b9c074a9b07839507499206e39106e281155d5b07475115bf35135407,
  0x74ac10746c00746bf074abe0746bd0746bc14bbb60746b30746b10746b00746af0746ae074cad0746ac0746aa0746a90746a80746a10746a0074a9f07469e074b9c074a9b07849507499206e39106e281155d5b07475115bf35135407,
  0x74ac10746c00746bf074abe0746bd0746bc14bbb60746b30746b10746b00746af0746ae074cad0746ac0746aa0746a90746a80746a10746a0074a9f07469e074b9c074a9b078b9507499206e39106e281155d5b07475115bf35135407,
  0x74ac10746c00746bf074abe0746bd0746bc14bbb60746b30746b10746b00746af0746ae074cad0746ac0746aa0746a90746a80746a10746a0074a9f07469e074b9c074a9b078c9507499206e39106e281155d5b07475115bf35135407,
  0x74ac10746c00746bf074abe0746bd0746bc14bbb60746b30746b10746b00746af0746ae074cad0746ac0746aa0746a90746a80746a10746a0074a9f07469e074b9c074a9b078e9507499206e39106e281155d5b07475115bf35135407,
  0x74ac10746c00746bf074abe0746bd0746bc14bbb60746b30746b10746b00746af0746ae074cad0746ac0746aa0746a90746a80746a10746a0074a9f07469e074b9c074a9b078f9507499206e39106e281155d5b07475115bf35135407,
  0xbf1c10beec00beebf0bf1be0beebd0beebc14c3b60beeb30beeb10beeb00beeaf0beeae0bf3ad0beeac0beeaa0beea90beea80beea10beea00bf19f0bee9e0bf29c0bf19b0bf8950bca920b57910b788115745b0bef5115d435136b07,
  0xbf1c10beec00beebf0bf1be0beebd0beebc14c3b60beeb30beeb10beeb00beeaf0beeae0bf3ad0beeac0beeaa0beea90beea80beea10beea00bf19f0bee9e0bf29c0bf19b0bf9950bca920b57910b788115745b0bef5115d435136b07,
  0xae9c10beec00beebf0ae9be0beebd0beebc13cfb60beeb30beeb10beeb00beeaf0beeae0bf3ad0beeac0beeaa0beea90beea80beea10beea00ae99f0bee9e0bfe9c0ae99b1370950add920adc910b7881150e5b0bef5115d435117c07,
  0xae9c10beec00beebf0ae9be0beebd0beebc13cfb60beeb30beeb10beeb00beeaf0beeae0bf3ad0beeac0beeaa0beea90beea80beea10beea00ae99f0bee9e0c009c0ae99b1370950add920adc910b7881150e5b0bef5115d435117c07,
  0xbf1c10beec00beebf0bf1be0beebd0beebc14c3b60beeb30beeb10beeb00beeaf0beeae0bf3ad0beeac0beeaa0beea90beea80beea10beea00bf19f0bee9e0bf29c0bf19b0c0b950bca920b57910b788115745b0bef5115d435136b07,
  0xbf1c10beec00beebf0bf1be0beebd0beebc14c3b60beeb30beeb10beeb00beeaf0beeae0bf3ad0beeac0beeaa0beea90beea80beea10beea00bf19f0bee9e0bf29c0bf19b0c0c950bca920b57910b788115745b0bef5115d435136b07,
  0x74ac10746c00746bf074abe0746bd0746bc14bbb60746b30746b10746b00746af0746ae074cad0746ac0746aa0746a90746a80746a10746a0074a9f07469e074b9c074a9b07979507499206e39106e281155d5b07475115bf35135407,
  0x74ac10746c00746bf074abe0746bd0746bc14bbb60746b30746b10746b00746af0746ae074cad0746ac0746aa0746a90746a80746a10746a0074a9f07469e074b9c074a9b07989507499206e39106e281155d5b07475115bf35135407,
  0xbf1c10beec00beebf0bf1be0beebd0beebc14c3b60beeb30beeb10beeb00beeaf0beeae0bf3ad0beeac0beeaa0beea90beea80beea10beea00bf19f0bee9e0bf29c0bf19b0c10950bca920b57910b788115745b0bef5115d435136b07,
  0xbf1c10beec00beebf0bf1be0beebd0beebc14c3b60beeb30beeb10beeb00beeaf0beeae0bf3ad0beeac0beeaa0beea90beea80beea10beea00bf19f0bee9e0bf29c0bf19b0c11950bca920b57910b788115745b0bef5115d435136b07,
  0xbf1c10beec00beebf0bf1be0beebd0beebc14c3b60beeb30beeb10beeb00beeaf0beeae0bf3ad0beeac0beeaa0beea90beea80beea10beea00bf19f0bee9e0bf29c0bf19b0c17950bca920b57910b788115745b0bef5115d435136b07,
  0xbf1c10beec00beebf0bf1be0beebd0beebc14c3b60beeb30beeb10beeb00beeaf0beeae0bf3ad0beeac0beeaa0beea90beea80beea10beea00bf19f0bee9e0bf29c0bf19b0c18950bca920b57910b788115745b0bef5115d435136b07,
  0xbf1c10beec00beebf0bf1be0beebd0beebc14c3b60beeb30beeb10beeb00beeaf0beeae0bf3ad0beeac0beeaa0beea90beea80beea10beea00bf19f0bee9e0bf29c0bf19b0c1a950bca920b57910b788115745b0bef5115d435136b07,
  0xbf1c10beec00beebf0bf1be0beebd0beebc14c3b60beeb30beeb10beeb00beeaf0beeae0bf3ad0beeac0beeaa0beea90beea80beea10beea00bf19f0bee9e0bf29c0bf19b0c1b950bca920b57910b788115745b0bef5115d435136b07,
  0x5dec105dac005dabf05debe05dabd05dabc14c6b605dab305dab105dab005daaf05daae05e0ad05daac05daaa05daa905daa805daa105daa005de9f05da9e05df9c05de9b05e69505dd9205bd9105bc8115905b05db5115dc35137807,
  0x5dec105dac005dabf05debe05dabd05dabc14c6b605dab305dab105dab005daaf05daae05e0ad05daac05daaa05daa905daa805daa105daa005de9f05da9e05df9c05de9b05e79505dd9205bd9105bc8115905b05db5115dc35137807,
  0x5dec105dac005dabf05debe05dabd05dabc14c6b605dab305dab105dab005daaf05daae05e0ad05daac05daaa05daa905daa805daa105daa005de9f05da9e05df9c05de9b05eb9505dd9205bd9105bc8115905b05db5115dc35137807,
  0xae9c105dac005dabf0ae9be05dabd05dabc13cfb605dab305dab105dab005daaf05daae05e0ad05daac05daaa05daa905daa805daa105daa00ae99f05da9e05ec9c0ae99b137d950add920adc9105bc81150e5b05db5115dc35117c07]

/-- The rows of successors 640 to 703. -/
def gotos10 : Array Nat := #[
  0xae9c105dac005dabf0ae9be05dabd05dabc13cfb605dab305dab105dab005daaf05daae05e0ad05daac05daaa05daa905daa805daa105daa00ae99f05da9e05ee9c0ae99b137d950add920adc9105bc81150e5b05db5115dc35117c07,
  0x5dec105dac005dabf05debe05dabd05dabc14c6b605dab305dab105dab005daaf05daae05e0ad05daac05daaa05daa905daa805daa105daa005de9f05da9e05df9c05de9b06069505dd9205bd9105bc8115905b05db5115dc35137807,
  0x5dec105dac005dabf05debe05dabd05dabc14c6b605dab305dab105dab005daaf05daae05e0ad05daac05daaa05daa905daa805daa105daa005de9f05da9e05df9c05de9b06079505dd9205bd9105bc8115905b05db5115dc35137807,
  0x5dec105dac005dabf05debe05dabd05dabc14c6b605dab305dab105dab005daaf05daae05e0ad05daac05daaa05daa905daa805daa105daa005de9f05da9e05df9c05de9b06139505dd9205bd9105bc8115905b05db5115dc35137807,
  0x5dec105dac005dabf05debe05dabd05dabc14c6b605dab305dab105dab005daaf05daae05e0ad05daac05daaa05daa905daa805daa105daa005de9f05da9e05df9c05de9b06149505dd9205bd9105bc8115905b05db5115dc35137807,
  0x5dec105dac005dabf05debe05dabd05dabc14c6b605dab305dab105dab005daaf05daae05e0ad05daac05daaa05daa905daa805daa105daa005de9f05da9e05df9c05de9b061a9505dd9205bd9105bc8115905b05db5115dc35137807,
  0x5dec105dac005dabf05debe05dabd05dabc14c6b605dab305dab105dab005daaf05daae05e0ad05daac05daaa05daa905daa805daa105daa005de9f05da9e05df9c05de9b061b9505dd9205bd9105bc8115905b05db5115dc35137807,
  0x5dec105dac005dabf05debe05dabd05dabc14c6b605dab305dab105dab005daaf05daae05e0ad05daac05daaa05daa905daa805daa105daa005de9f05da9e05df9c05de9b061d9505dd9205bd9105bc8115905b05db5115dc35137807,
  0x5dec105dac005dabf05debe05dabd05dabc14c6b605dab305dab105dab005daaf05daae05e0ad05daac05daaa05daa905daa805daa105daa005de9f05da9e05df9c05de9b061e9505dd9205bd9105bc8115905b05db5115dc35137807,
  0xcb7c10cb4c00cb4bf0cb7be0cb4bd0cb4bc14c9b60cb4b30cb4b10cb4b00cb4af0cb4ae0cb9ad0cb4ac0cb4aa0cb4a90cb4a80cb4a10cb4a00cb79f0cb49e0cb89c0cb79b0cbd950c4c920bd5910c1f8115a05b0cb55115eb35138107,
  0xcb7c10cb4c00cb4bf0cb7be0cb4bd0cb4bc14c9b60cb4b30cb4b10cb4b00cb4af0cb4ae0cb9ad0cb4ac0cb4aa0cb4a90cb4a80cb4a10cb4a00cb79f0cb49e0cb89c0cb79b0cbe950c4c920bd5910c1f8115a05b0cb55115eb35138107,
  0xcb7c10cb4c00cb4bf0cb7be0cb4bd0cb4bc14c9b60cb4b30cb4b10cb4b00cb4af0cb4ae0cb9ad0cb4ac0cb4aa0cb4a90cb4a80cb4a10cb4a00cb79f0cb49e0cb89c0cb79b0cc1950c4c920bd5910c1f8115a05b0cb55115eb35138107,
  0xae9c10cb4c00cb4bf0ae9be0cb4bd0cb4bc13cfb60cb4b30cb4b10cb4b00cb4af0cb4ae0cb9ad0cb4ac0cb4aa0cb4a90cb4a80cb4a10cb4a00ae99f0cb49e0cc29c0ae99b1385950add920adc910c1f81150e5b0cb55115eb35117c07,
  0xae9c10cb4c00cb4bf0ae9be0cb4bd0cb4bc13cfb60cb4b30cb4b10cb4b00cb4af0cb4ae0cb9ad0cb4ac0cb4aa0cb4a90cb4a80cb4a10cb4a00ae99f0cb49e0cc49c0ae99b1385950add920adc910c1f81150e5b0cb55115eb35117c07,
  0xcb7c10cb4c00cb4bf0cb7be0cb4bd0cb4bc14c9b60cb4b30cb4b10cb4b00cb4af0cb4ae0cb9ad0cb4ac0cb4aa0cb4a90cb4a80cb4a10cb4a00cb79f0cb49e0cb89c0cb79b0ccf950c4c920bd5910c1f8115a05b0cb55115eb35138107,
  0xcb7c10cb4c00cb4bf0cb7be0cb4bd0cb4bc14c9b60cb4b30cb4b10cb4b00cb4af0cb4ae0cb9ad0cb4ac0cb4aa0cb4a90cb4a80cb4a10cb4a00cb79f0cb49e0cb89c0cb79b0cd0950c4c920bd5910c1f8115a05b0cb55115eb35138107,
  0xcb7c10cb4c00cb4bf0cb7be0cb4bd0cb4bc14c9b60cb4b30cb4b10cb4b00cb4af0cb4ae0cb9ad0cb4ac0cb4aa0cb4a90cb4a80cb4a10cb4a00cb79f0cb49e0cb89c0cb79b0cd5950c4c920bd5910c1f8115a05b0cb55115eb35138107,
  0xcb7c10cb4c00cb4bf0cb7be0cb4bd0cb4bc14c9b60cb4b30cb4b10cb4b00cb4af0cb4ae0cb9ad0cb4ac0cb4aa0cb4a90cb4a80cb4a10cb4a00cb79f0cb49e0cb89c0cb79b0cd6950c4c920bd5910c1f8115a05b0cb55115eb35138107,
  0xcb7c10cb4c00cb4bf0cb7be0cb4bd0cb4bc14c9b60cb4b30cb4b10cb4b00cb4af0cb4ae0cb9ad0cb4ac0cb4aa0cb4a90cb4a80cb4a10cb4a00cb79f0cb49e0cb89c0cb79b0cdd950c4c920bd5910c1f8115a05b0cb55115eb35138107,
  0xcb7c10cb4c00cb4bf0cb7be0cb4bd0cb4bc14c9b60cb4b30cb4b10cb4b00cb4af0cb4ae0cb9ad0cb4ac0cb4aa0cb4a90cb4a80cb4a10cb4a00cb79f0cb49e0cb89c0cb79b0cde950c4c920bd5910c1f8115a05b0cb55115eb35138107,
  0xcb7c10cb4c00cb4bf0cb7be0cb4bd0cb4bc14c9b60cb4b30cb4b10cb4b00cb4af0cb4ae0cb9ad0cb4ac0cb4aa0cb4a90cb4a80cb4a10cb4a00cb79f0cb49e0cb89c0cb79b0ce0950c4c920bd5910c1f8115a05b0cb55115eb35138107,
  0xcb7c10cb4c00cb4bf0cb7be0cb4bd0cb4bc14c9b60cb4b30cb4b10cb4b00cb4af0cb4ae0cb9ad0cb4ac0cb4aa0cb4a90cb4a80cb4a10cb4a00cb79f0cb49e0cb89c0cb79b0ce1950c4c920bd5910c1f8115a05b0cb55115eb35138107,
  0x5dec105dac005dabf05debe05dabd05dabc14c6b605dab305dab105dab005daaf05daae05e0ad05daac05daaa05daa905daa805daa105daa005de9f05da9e05df9c05de9b05c79505dd9205bd9105bc8115905b05db5115dc35137807,
  0x5dec105dac005dabf05debe05dabd05dabc14c6b605dab305dab105dab005daaf05daae05e0ad05daac05daaa05daa905daa805daa105daa005de9f05da9e05df9c05de9b05c89505dd9205bd9105bc8115905b05db5115dc35137807,
  0xae9c10ae6c00ae6bf0ae9be0ae6bd0ae6bc13cfb60ae6b30ae6b10ae6b00ae6af0ae6ae0aebad0ae6ac0ae6aa0ae6a90ae6a80ae6a10ae6a00ae99f0ae69e0aea9c0ae99b0c67950c3d920ba5910ac781150e5b0ae751150d35117c07,
  0xae9c10ae6c00ae6bf0ae9be0ae6bd0ae6bc14ceb60ae6b30ae6b10ae6b00ae6af0ae6ae0aebad0ae6ac0ae6aa0ae6a90ae6a80ae6a10ae6a00ae99f0ae69e0aea9c0ae99b0aee950add920d06910ac78115c05b0ae751150d35139d07,
  0xae9c10ae6c00ae6bf0ae9be0ae6bd0ae6bc14ceb60ae6b30ae6b10ae6b00ae6af0ae6ae0aebad0ae6ac0ae6aa0ae6a90ae6a80ae6a10ae6a00ae99f0ae69e0aea9c0ae99b0eb0950add920d06910ac78115c05b0ae751150d35139d07,
  0xae9c10ae6c00ae6bf0ae9be0ae6bd0ae6bc14ceb60ae6b30ae6b10ae6b00ae6af0ae6ae0aebad0ae6ac0ae6aa0ae6a90ae6a80ae6a10ae6a00ae99f0ae69e0aea9c0ae99b0eb1950add920d06910ac78115c05b0ae751150d35139d07,
  0xae9c10ae6c00ae6bf0ae9be0ae6bd0ae6bc13cfb60ae6b30ae6b10ae6b00ae6af0ae6ae0aebad0ae6ac0ae6aa0ae6a90ae6a80ae6a10ae6a00ae99f0ae69e0af29c0ae99b139c950add920adc910ac781150e5b0ae751150d35117c07,
  0xae9c10ae6c00ae6bf0ae9be0ae6bd0ae6bc13cfb60ae6b30ae6b10ae6b00ae6af0ae6ae0aebad0ae6ac0ae6aa0ae6a90ae6a80ae6a10ae6a00ae99f0ae69e0af39c0ae99b139c950add920adc910ac781150e5b0ae751150d35117c07,
  0xae9c10ae6c00ae6bf0ae9be0ae6bd0ae6bc14ceb60ae6b30ae6b10ae6b00ae6af0ae6ae0aebad0ae6ac0ae6aa0ae6a90ae6a80ae6a10ae6a00ae99f0ae69e0aea9c0ae99b0afd950add920d06910ac78115c05b0ae751150d35139d07,
  0xae9c10ae6c00ae6bf0ae9be0ae6bd0ae6bc14ceb60ae6b30ae6b10ae6b00ae6af0ae6ae0aebad0ae6ac0ae6aa0ae6a90ae6a80ae6a10ae6a00ae99f0ae69e0aea9c0ae99b0e8b950add920d06910ac78115c05b0ae751150d35139d07,
  0xae9c10ae6c00ae6bf0ae9be0ae6bd0ae6bc14ceb60ae6b30ae6b10ae6b00ae6af0ae6ae0aebad0ae6ac0ae6aa0ae6a90ae6a80ae6a10ae6a00ae99f0ae69e0aea9c0ae99b0e8c950add920d06910ac78115c05b0ae751150d35139d07,
  0xae9c10ae6c00ae6bf0ae9be0ae6bd0ae6bc14ceb60ae6b30ae6b10ae6b00ae6af0ae6ae0aebad0ae6ac0ae6aa0ae6a90ae6a80ae6a10ae6a00ae99f0ae69e0aea9c0ae99b0e8d950add920d06910ac78115c05b0ae751150d35139d07,
  0xae9c10ae6c00ae6bf0ae9be0ae6bd0ae6bc14ceb60ae6b30ae6b10ae6b00ae6af0ae6ae0aebad0ae6ac0ae6aa0ae6a90ae6a80ae6a10ae6a00ae99f0ae69e0aea9c0ae99b0b04950add920d06910ac78115c05b0ae751150d35139d07,
  0xae9c10ae6c00ae6bf0ae9be0ae6bd0ae6bc14ceb60ae6b30ae6b10ae6b00ae6af0ae6ae0aebad0ae6ac0ae6aa0ae6a90ae6a80ae6a10ae6a00ae99f0ae69e0aea9c0ae99b0e90950add920d06910ac78115c05b0ae751150d35139d07,
  0xae9c10ae6c00ae6bf0ae9be0ae6bd0ae6bc14ceb60ae6b30ae6b10ae6b00ae6af0ae6ae0aebad0ae6ac0ae6aa0ae6a90ae6a80ae6a10ae6a00ae99f0ae69e0aea9c0ae99b0b08950add920d06910ac78115c05b0ae751150d35139d07,
  0xae9c10ae6c00ae6bf0ae9be0ae6bd0ae6bc14ceb60ae6b30ae6b10ae6b00ae6af0ae6ae0aebad0ae6ac0ae6aa0ae6a90ae6a80ae6a10ae6a00ae99f0ae69e0aea9c0ae99b0b09950add920d06910ac78115c05b0ae751150d35139d07,
  0xae9c10ae6c00ae6bf0ae9be0ae6bd0ae6bc14ceb60ae6b30ae6b10ae6b00ae6af0ae6ae0aebad0ae6ac0ae6aa0ae6a90ae6a80ae6a10ae6a00ae99f0ae69e0aea9c0ae99b0b0a950add920d06910ac78115c05b0ae751150d35139d07,
  0xae9c10ae6c00ae6bf0ae9be0ae6bd0ae6bc14ceb60ae6b30ae6b10ae6b00ae6af0ae6ae0aebad0ae6ac0ae6aa0ae6a90ae6a80ae6a10ae6a00ae99f0ae69e0aea9c0ae99b0e95950add920d06910ac78115c05b0ae751150d35139d07,
  0xbf1c10beec00beebf0bf1be0beebd0beebc14c3b60beeb30beeb10beeb00beeaf0beeae0bf3ad0beeac0beeaa0beea90beea80beea10beea00bf19f0bee9e0bf29c0bf19b0c1d950bca920b57910b788115745b0bef5115d435136b07,
  0xbf1c10beec00beebf0bf1be0beebd0beebc14c3b60beeb30beeb10beeb00beeaf0beeae0bf3ad0beeac0beeaa0beea90beea80beea10beea00bf19f0bee9e0bf29c0bf19b0c1e950bca920b57910b788115745b0bef5115d435136b07,
  0x5dec105dac005dabf05debe05dabd05dabc14c6b605dab305dab105dab005daaf05daae05e0ad05daac05daaa05daa905daa805daa105daa005de9f05da9e05df9c05de9b06209505dd9205bd9105bc8115905b05db5115dc35137807,
  0x5dec105dac005dabf05debe05dabd05dabc14c6b605dab305dab105dab005daaf05daae05e0ad05daac05daaa05daa905daa805daa105daa005de9f05da9e05df9c05de9b06219505dd9205bd9105bc8115905b05db5115dc35137807,
  0xae9c10ae6c00ae6bf0ae9be0ae6bd0ae6bc13cfb60ae6b30ae6b10ae6b00ae6af0ae6ae0aebad0ae6ac0ae6aa0ae6a90ae6a80ae6a10ae6a00ae99f0ae69e0aea9c0ae99b0e84950add920adc910ac781150e5b0ae751150d35117c07,
  0xbf1c10beec00beebf0bf1be0beebd0beebc14c3b60beeb30beeb10beeb00beeaf0beeae0bf3ad0beeac0beeaa0beea90beea80beea10beea00bf19f0bee9e0bf29c0bf19b107b950bca920b57910b788115745b0bef5115d435136b07,
  0xbf1c10beec00beebf0bf1be0beebd0beebc14c3b60beeb30beeb10beeb00beeaf0beeae0bf3ad0beeac0beeaa0beea90beea80beea10beea00bf19f0bee9e0bf29c0bf19b1083950bca920b57910b788115745b0bef5115d435136b07,
  0xae9c10ae6c00ae6bf0ae9be0ae6bd0ae6bc14d4b60ae6b30ae6b10ae6b00ae6af0ae6ae0aebad0ae6ac0ae6aa0ae6a90ae6a80ae6a10ae6a00ae99f0ae69e0aea9c0ae99b0afd950add920c57910ac78115fb5b0ae751150d35139b07,
  0xae9c10ae6c00ae6bf0ae9be0ae6bd0ae6bc14d4b60ae6b30ae6b10ae6b00ae6af0ae6ae0aebad0ae6ac0ae6aa0ae6a90ae6a80ae6a10ae6a00ae99f0ae69e0aea9c0ae99b0e11950add920c57910ac78115fb5b0ae751150d35139b07,
  0xae9c10ae6c00ae6bf0ae9be0ae6bd0ae6bc14d4b60ae6b30ae6b10ae6b00ae6af0ae6ae0aebad0ae6ac0ae6aa0ae6a90ae6a80ae6a10ae6a00ae99f0ae69e0aea9c0ae99b0e12950add920c57910ac78115fb5b0ae751150d35139b07,
  0xae9c10ae6c00ae6bf0ae9be0ae6bd0ae6bc14d4b60ae6b30ae6b10ae6b00ae6af0ae6ae0aebad0ae6ac0ae6aa0ae6a90ae6a80ae6a10ae6a00ae99f0ae69e0aea9c0ae99b0e13950add920c57910ac78115fb5b0ae751150d35139b07,
  0xae9c10ae6c00ae6bf0ae9be0ae6bd0ae6bc14d4b60ae6b30ae6b10ae6b00ae6af0ae6ae0aebad0ae6ac0ae6aa0ae6a90ae6a80ae6a10ae6a00ae99f0ae69e0aea9c0ae99b0b04950add920c57910ac78115fb5b0ae751150d35139b07,
  0xae9c10ae6c00ae6bf0ae9be0ae6bd0ae6bc14d4b60ae6b30ae6b10ae6b00ae6af0ae6ae0aebad0ae6ac0ae6aa0ae6a90ae6a80ae6a10ae6a00ae99f0ae69e0aea9c0ae99b0e14950add920c57910ac78115fb5b0ae751150d35139b07,
  0xbf1c10beec00beebf0bf1be0beebd0beebc14c3b60beeb30beeb10beeb00beeaf0beeae0bf3ad0beeac0beeaa0beea90beea80beea10beea00bf19f0bee9e0bf29c0bf19b1089950bca920b57910b788115745b0bef5115d435136b07,
  0xae9c10ae6c00ae6bf0ae9be0ae6bd0ae6bc14d4b60ae6b30ae6b10ae6b00ae6af0ae6ae0aebad0ae6ac0ae6aa0ae6a90ae6a80ae6a10ae6a00ae99f0ae69e0aea9c0ae99b0b08950add920c57910ac78115fb5b0ae751150d35139b07,
  0xae9c10ae6c00ae6bf0ae9be0ae6bd0ae6bc14d4b60ae6b30ae6b10ae6b00ae6af0ae6ae0aebad0ae6ac0ae6aa0ae6a90ae6a80ae6a10ae6a00ae99f0ae69e0aea9c0ae99b0b09950add920c57910ac78115fb5b0ae751150d35139b07,
  0xae9c10ae6c00ae6bf0ae9be0ae6bd0ae6bc13cfb60ae6b30ae6b10ae6b00ae6af0ae6ae0aebad0ae6ac0ae6aa0ae6a90ae6a80ae6a10ae6a00ae99f0ae69e0aea9c0ae99b1110950add920adc910ac781150e5b0ae751150d35117c07,
  0xae9c10ae6c00ae6bf0ae9be0ae6bd0ae6bc14d4b60ae6b30ae6b10ae6b00ae6af0ae6ae0aebad0ae6ac0ae6aa0ae6a90ae6a80ae6a10ae6a00ae99f0ae69e0aea9c0ae99b0b0a950add920c57910ac78115fb5b0ae751150d35139b07,
  0xae9c10ae6c00ae6bf0ae9be0ae6bd0ae6bc14d4b60ae6b30ae6b10ae6b00ae6af0ae6ae0aebad0ae6ac0ae6aa0ae6a90ae6a80ae6a10ae6a00ae99f0ae69e0aea9c0ae99b0e16950add920c57910ac78115fb5b0ae751150d35139b07,
  0xae9c10ae6c00ae6bf0ae9be0ae6bd0ae6bc13cfb60ae6b30ae6b10ae6b00ae6af0ae6ae0aebad0ae6ac0ae6aa0ae6a90ae6a80ae6a10ae6a00ae99f0ae69e0aea9c0ae99b0e96950add920adc910ac781150e5b0ae751150d35117c07,
  0xae9c10ae6c00ae6bf0ae9be0ae6bd0ae6bc13cfb60ae6b30ae6b10ae6b00ae6af0ae6ae0aebad0ae6ac0ae6aa0ae6a90ae6a80ae6a10ae6a00ae99f0ae69e0aea9c0ae99b1118950add920adc910ac781150e5b0ae751150d35117c07,
  0xae9c10ae6c00ae6bf0ae9be0ae6bd0ae6bc13cfb60ae6b30ae6b10ae6b00ae6af0ae6ae0aebad0ae6ac0ae6aa0ae6a90ae6a80ae6a10ae6a00ae99f0ae69e0aea9c0ae99b0e9b950add920adc910ac781150e5b0ae751150d35117c07,
  0xae9c10ae6c00ae6bf0ae9be0ae6bd0ae6bc13cfb60ae6b30ae6b10ae6b00ae6af0ae6ae0aebad0ae6ac0ae6aa0ae6a90ae6a80ae6a10ae6a00ae99f0ae69e0aea9c0ae99b1120950add920adc910ac781150e5b0ae751150d35117c07,
  0xae9c10ae6c00ae6bf0ae9be0ae6bd0ae6bc13cfb60ae6b30ae6b10ae6b00ae6af0ae6ae0aebad0ae6ac0ae6aa0ae6a90ae6a80ae6a10ae6a00ae99f0ae69e0aea9c0ae99b0ea0950add920adc910ac781150e5b0ae751150d35117c07]

/-- The rows of successors 704 to 767. -/
def gotos11 : Array Nat := #[
  0xae9c10ae6c00ae6bf0ae9be0ae6bd0ae6bc13cfb60ae6b30ae6b10ae6b00ae6af0ae6ae0aebad0ae6ac0ae6aa0ae6a90ae6a80ae6a10ae6a00ae99f0ae69e0aea9c0ae99b1128950add920adc910ac781150e5b0ae751150d35117c07,
  0xae9c10ae6c00ae6bf0ae9be0ae6bd0ae6bc13cfb60ae6b30ae6b10ae6b00ae6af0ae6ae0aebad0ae6ac0ae6aa0ae6a90ae6a80ae6a10ae6a00ae99f0ae69e0aea9c0ae99b0ea5950add920adc910ac781150e5b0ae751150d35117c07,
  0xae9c10ae6c00ae6bf0ae9be0ae6bd0ae6bc13cfb60ae6b30ae6b10ae6b00ae6af0ae6ae0aebad0ae6ac0ae6aa0ae6a90ae6a80ae6a10ae6a00ae99f0ae69e0aea9c0ae99b0eaa950add920adc910ac781150e5b0ae751150d35117c07,
  0xae9c10ae6c00ae6bf0ae9be0ae6bd0ae6bc14d4b60ae6b30ae6b10ae6b00ae6af0ae6ae0aebad0ae6ac0ae6aa0ae6a90ae6a80ae6a10ae6a00ae99f0ae69e0aea9c0ae99b0aee950add920c57910ac78115fb5b0ae751150d35139b07,
  0xae9c10ae6c00ae6bf0ae9be0ae6bd0ae6bc14d4b60ae6b30ae6b10ae6b00ae6af0ae6ae0aebad0ae6ac0ae6aa0ae6a90ae6a80ae6a10ae6a00ae99f0ae69e0aea9c0ae99b0e1d950add920c57910ac78115fb5b0ae751150d35139b07,
  0xae9c10ae6c00ae6bf0ae9be0ae6bd0ae6bc13cfb60ae6b30ae6b10ae6b00ae6af0ae6ae0aebad0ae6ac0ae6aa0ae6a90ae6a80ae6a10ae6a00ae99f0ae69e0af29c0ae99b13a0950add920adc910ac781150e5b0ae751150d35117c07,
  0xae9c10ae6c00ae6bf0ae9be0ae6bd0ae6bc13cfb60ae6b30ae6b10ae6b00ae6af0ae6ae0aebad0ae6ac0ae6aa0ae6a90ae6a80ae6a10ae6a00ae99f0ae69e0af39c0ae99b13a0950add920adc910ac781150e5b0ae751150d35117c07,
  0xae9c10ae6c00ae6bf0ae9be0ae6bd0ae6bc13cfb60ae6b30ae6b10ae6b00ae6af0ae6ae0aebad0ae6ac0ae6aa0ae6a90ae6a80ae6a10ae6a00ae99f0ae69e0aea9c0ae99b1136950add920adc910ac781150e5b0ae751150d35117c07,
  0xae9c10ae6c00ae6bf0ae9be0ae6bd0ae6bc14d4b60ae6b30ae6b10ae6b00ae6af0ae6ae0aebad0ae6ac0ae6aa0ae6a90ae6a80ae6a10ae6a00ae99f0ae69e0aea9c0ae99b1141950add920c57910ac78115fb5b0ae751150d35139b07,
  0xae9c10ae6c00ae6bf0ae9be0ae6bd0ae6bc13cfb60ae6b30ae6b10ae6b00ae6af0ae6ae0aebad0ae6ac0ae6aa0ae6a90ae6a80ae6a10ae6a00ae99f0ae69e0aea9c0ae99b1142950add920adc910ac781150e5b0ae751150d35117c07,
  0xae9c10ae6c00ae6bf0ae9be0ae6bd0ae6bc14d4b60ae6b30ae6b10ae6b00ae6af0ae6ae0aebad0ae6ac0ae6aa0ae6a90ae6a80ae6a10ae6a00ae99f0ae69e0aea9c0ae99b1143950add920c57910ac78115fb5b0ae751150d35139b07,
  0xae9c10ae6c00ae6bf0ae9be0ae6bd0ae6bc14d4b60ae6b30ae6b10ae6b00ae6af0ae6ae0aebad0ae6ac0ae6aa0ae6a90ae6a80ae6a10ae6a00ae99f0ae69e0aea9c0ae99b1144950add920c57910ac78115fb5b0ae751150d35139b07,
  0xae9c10ae6c00ae6bf0ae9be0ae6bd0ae6bc14d4b60ae6b30ae6b10ae6b00ae6af0ae6ae0aebad0ae6ac0ae6aa0ae6a90ae6a80ae6a10ae6a00ae99f0ae69e0aea9c0ae99b1145950add920c57910ac78115fb5b0ae751150d35139b07,
  0xae9c10ae6c00ae6bf0ae9be0ae6bd0ae6bc14d4b60ae6b30ae6b10ae6b00ae6af0ae6ae0aebad0ae6ac0ae6aa0ae6a90ae6a80ae6a10ae6a00ae99f0ae69e0aea9c0ae99b1148950add920c57910ac78115fb5b0ae751150d35139b07,
  0xae9c10ae6c00ae6bf0ae9be0ae6bd0ae6bc14d4b60ae6b30ae6b10ae6b00ae6af0ae6ae0aebad0ae6ac0ae6aa0ae6a90ae6a80ae6a10ae6a00ae99f0ae69e0aea9c0ae99b1149950add920c57910ac78115fb5b0ae751150d35139b07,
  0x1153c91152c810ddc30e42bb0e42ba1491b60e42b50e42b40a5a890a42880e426f0b66630b666211506111516011515f11505e0c495b04f8570b665111514b15004a0ee63e1500341150321500300e4201,
  0x1153c91344c810ddc30e42bb0e42ba1491b60e42b50e42b40a5a890a42880e426f0b66630b666211506113436013435f11505e0c495b04f8570b665113434b15004a0ee63e1500341150321500300e4201,
  0x1153c91344c810ddc30e97bb0e97ba1491b60e97b50e97b40a5a890a42880e976f0b66630b666211506113436013435f11505e0c495b04f8570b665113434b15004a0ee63e1500341150321500300e9701,
  0x1166c91165c800e57f00da5100d935, 0x1166c91165c80d3b4a0d3b340d3b3010bf13,
  0x1166c91165c8030f7f03015102e535, 0x1166c9134dc800e57f00da5100d935,
  0x1166c9134dc80d3b4a0d3b340d3b3010bf13, 0x1166c9134dc8030f7f03015102e535, 0x68c7f05d75105d635,
  0x10ddc30e50bb0e50ba1491b60e50b50e50b40a5a890a42880e506f0b66630b666213c06113c16013c15f13c05e0c495b04f8570b665113c14b15004a0ee63e15003413c0321500300e5001,
  0x10ddc30e98bb0e98ba1491b60e98b50e98b40a5a890a42880e986f0b66630b666213c06113c16013c15f13c05e0c495b04f8570b665113c14b15004a0ee63e15003413c0321500300e9801,
  0xe57f00da5100d935, 0xd3b4a0d3b340d3b3010bf13, 0x30f7f03015102e535, 0x6aa7f05d15105d035,
  0x30f7f030151113835, 0xc6e4a0c6e340c6e3010bf13, 0xaf6b20acb56, 0xaf1b2, 0xc03b20b7b56,
  0xd3b4a0d3b340d3b30110413, 0x100a7f0deb510d1e35, 0x13d5b204dd56, 0xaf1b2141d90, 0xbfcb2,
  0x4bdc304f857, 0x11a14a11a13411a130,
  0x10ddc30e42bb0e42ba1491b60e42b50e42b40a59890a41880e426f0b62630b62620c495b04f8570b62510ee63e0e4201,
  0x10ddc30e86bb0e86ba1491b60e86b50e86b40a59890a41880e866f0b62630b62620c495b04f8570b62510ee63e0e8601,
  0x10ddc30e97bb0e97ba1491b60e97b50e97b40a59890a41880e976f0b62630b62620c495b04f8570b62510ee63e0e9701,
  0x10ddc30e9cbb0e9cba1491b60e9cb50e9cb40a59890a41880e9c6f0b62630b62620c495b04f8570b62510ee63e0e9c01,
  0x10ddc30ea1bb0ea1ba1491b60ea1b50ea1b40a59890a41880ea16f0b62630b62620c495b04f8570b62510ee63e0ea101,
  0x10ddc30ea6bb0ea6ba1491b60ea6b50ea6b40a59890a41880ea66f0b62630b62620c495b04f8570b62510ee63e0ea601,
  0x10ddc30f23bb0f23ba1491b60f23b50f23b40a59890a41880f236f0b62630b62620c495b04f8570b62510ee63e0f2301,
  0x10ddc30e50bb0e50ba1491b60e50b50e50b40a59890a41880e506f0b62630b62620c495b04f8570b62510ee63e0e5001,
  0x10ddc30e88bb0e88ba1491b60e88b50e88b40a59890a41880e886f0b62630b62620c495b04f8570b62510ee63e0e8801,
  0x10ddc30e98bb0e98ba1491b60e98b50e98b40a59890a41880e986f0b62630b62620c495b04f8570b62510ee63e0e9801,
  0x10ddc30e9dbb0e9dba1491b60e9db50e9db40a59890a41880e9d6f0b62630b62620c495b04f8570b62510ee63e0e9d01,
  0x10ddc30ea2bb0ea2ba1491b60ea2b50ea2b40a59890a41880ea26f0b62630b62620c495b04f8570b62510ee63e0ea201,
  0x10ddc30ea7bb0ea7ba1491b60ea7b50ea7b40a59890a41880ea76f0b62630b62620c495b04f8570b62510ee63e0ea701,
  0x595d008f4c3117abb0a54890a1388117a7010cf6f117a6c0b38630b386209e35f05955c0a65570b3851,
  0x596d008f4c3117abb0a54890a1388117a7010cf6f117a6c0b38630b386209e35f05965c0a65570b3851,
  0x1166c91165c810afc310068710068410068210068010087e10067d10067c10067b10067104f85710063c10063a10063710061210061110070611020314b902,
  0x1166c9134dc810afc310068710068410068210068010087e10067d10067c10067b10067104f85710063c10063a10063710061210061110070611020314b902,
  0x59bd008f4c3117abb0a54890a1388117a7010cf6f117a6c0b38630b386209e35f059b5c0a65570b3851,
  0x59ed008f4c3117abb0a54890a1388117a7010cf6f117a6c0b38630b386209e35f059e5c0a65570b3851,
  0x5a1d008f4c3117abb0a54890a1388117a7010cf6f117a6c0b38630b386209e35f05a15c0a65570b3851,
  0x5a3d008f4c3117abb0a54890a1388117a7010cf6f117a6c0b38630b386209e35f05a35c0a65570b3851]

/-- The rows of successors 768 to 831. -/
def gotos12 : Array Nat := #[
  0x1153c91152c80a51890a3c880d39630d396211506111516011515f11505e0d395111514b15004a150034115032150030,
  0x5c5b2063e56063152134c40,
  0x1153c91344c80a51890a3c880d39630d396211506113436013435f11505e0d395113434b15004a150034115032150030,
  0x10afc310068710068410068210068010087e10067d10067c10067b10067104f85710063c10063a10063710061210061110070611020314b902,
  0x5f4b205f356, 0x5f6b205f556, 0x5f8b205f756, 0x5eab2,
  0xa51890a3c880d39630d396213c06113c16013c15f13c05e0d395113c14b15004a15003413c032150030,
  0x63152134c40, 0x5f0b2, 0x5f156, 0x63152, 0x64656, 0x66956, 0x6ab14, 0x68d14,
  0x724b207e85607d452116040, 0x1166c91165c80a60890b6a630b6a620b6a51, 0x5c4b2062f56134c40,
  0x1166c9134dc80a60890b6a630b6a620b6a51, 0xa56890b3c630b3c620b3c510a0714,
  0xa71890a20880c71630c71620c7151, 0xa7e890a24880c79630c79620c7951,
  0x1166c91165c80e85630e85620e8551, 0x1166c91165c80b6a630b6a620b6a51, 0x763b2076256, 0x765b2076456,
  0x767b2076656, 0x1166c9134dc80e85630e85620e8551, 0x1166c9134dc80b6a630b6a620b6a51, 0x758b2,
  0x7d452116040, 0x71db207d256116040, 0xdd2cc05c4b2150790062f56134c40, 0xa78890c78630c78620c7851,
  0xa8f890c86630c86620c8651, 0xa60890b6a630b6a620b6a51, 0x75eb2, 0x75f56,
  0xdd2cc05c4b2155990062f56134c40, 0xdd2cc05c4b2157090062f56134c40,
  0xdd2cc05c4b2158c90062f56134c40, 0x10c3cc071db207d256116040, 0x7d452,
  0x1345c915056315056213426113425e15055115004a150034134232150030, 0x7f056, 0xb3c630b3c620b3c51,
  0x81156, 0xa5b890b42630b42620b4251, 0xb42630b42620b4251, 0xa5d890b44630b44620b4451,
  0xb45630b45620b4551, 0xa5f890b67630b67620b6751, 0xa61890b4b630b4b620b4b51, 0xb4c630b4c620b4c51,
  0xa62890b6d630b6d620b6d51, 0xe85630e85620e8551, 0xb6a630b6a620b6a51, 0xa63890b70630b70620b7051,
  0x1153c915056315056211506111505e15055115004a150034115032150030, 0x1177ca05c4b2062f56134c40,
  0x15056315056213c06113c05e15055115004a15003413c032150030, 0xdd2cc05c4b2062f56134c40]

/-- The rows of successors 832 to 895. -/
def gotos13 : Array Nat := #[
  0xe40630e40620e4051, 0x970b2062f56134c40, 0x1199ca05c4b2062f56134c40,
  0x1366c80a51890a3c880d52630d526213656013655f0d525113654b, 0xe4c630e4c620e4c51,
  0xeac630eac620eac51, 0xe4f630e4f620e4f51, 0xb67630b67620b6751, 0xe57630e57620e5751,
  0xb48630b48620b4851, 0xb49630b49620b4951, 0xb4e630b4e620b4e51, 0xe5a630e5a620e5a51,
  0xb6d630b6d620b6d51, 0xb70630b70620b7051, 0xe61630e61620e6151, 0xb4f630b4f620b4f51,
  0xb50630b50620b5051, 0xb51630b51620b5151, 0xb53630b53620b5351, 0xe63630e63620e6351,
  0xb71630b71620b7151, 0xb72630b72620b7251, 0xe67630e67620e6751, 0xb54630b54620b5451,
  0xe68630e68620e6851, 0xb73630b73620b7351, 0xb74630b74620b7451, 0xe6c630e6c620e6c51,
  0xeae630eae620eae51, 0xeb3630eb3620eb351, 0xeb4630eb4620eb451, 0xeb5630eb5620eb551,
  0x1352ca05c4b2062f56134c40, 0x1360ca05c4b2062f56134c40, 0x1371ca05c4b2062f56134c40,
  0x137eca05c4b2062f56134c40, 0x1386ca05c4b2062f56134c40, 0x138fca05c4b2062f56134c40,
  0x1393ca05c4b2062f56134c40, 0xe87630e87620e8751, 0xe8e630e8e620e8e51, 0xe92630e92620e9251,
  0xe93630e93620e9351, 0xa53890e2e630e2e620e2e51,
  0xa51890a3c880d52630d526213c16013c15f0d525113c14b,
  0xa30c30a58890a18880b3e630b3e6209e55f0a65570b3e51, 0xc78630c78620c7851, 0xe4d630e4d620e4d51,
  0x1368c80a53890e2e630e2e620e2e51, 0xc7d630c7d620c7d51, 0xe58630e58620e5851, 0xe2e630e2e620e2e51,
  0x1368c80e2e630e2e620e2e51, 0xa84890c7d630c7d620c7d51, 0xa87890c7f630c7f620c7f51,
  0xc80630c80620c8051, 0xa93890c8e630c8e620c8e51, 0xc8f630c8f620c8f51, 0xa95890c95630c95620c9551,
  0xc96630c96620c9651, 0xa0fb207d256116040, 0xc85630c85620c8551, 0xc89630c89620c8951]

/-- The rows of successors 896 to 959. -/
def gotos14 : Array Nat := #[
  0xc8a630c8a620c8a51, 0xc8d630c8d620c8d51, 0xc93630c93620c9351, 0xc9a630c9a620c9a51,
  0xc9b630c9b620c9b51, 0xc9c630c9c620c9c51, 0xc9d630c9d620c9d51, 0xca0630ca0620ca051,
  0xca1630ca1620ca151, 0xca2630ca2620ca251, 0xca5630ca5620ca551, 0xca6630ca6620ca651,
  0xca7630ca7620ca751, 0xca8630ca8620ca851, 0x145eb20a6756, 0xa55890e39630e39620e3951, 0x1368c8,
  0xe39630e39620e3951, 0xa56890b3c630b3c620b3c51, 0xe49630e49620e4951, 0xa5e890b46630b46620b4651,
  0xe54630e54620e5451, 0xe5e630e5e620e5e51, 0xa8b890c83630c83620c8351, 0xe62630e62620e6251,
  0xe64630e64620e6451, 0xe6b630e6b620e6b51, 0xe6f630e6f620e6f51, 0xa30c30a6557,
  0xe94630e94620e9451, 0xeb6630eb6620eb651,
  0xebfc303078703078403078203078003097e03077d03077c03077b03077104f85703073c03073a030737030712030711032506,
  0xa57890b3d630b3d620b3d51, 0x1198860ef0630ef0620ef051, 0xa5c890b43630b43620b4351,
  0x14398610f76310f76210f751, 0x135f86107e63107e62107e51,
  0x10afc310068710068410068210068010087e10067d10067c10067b10067104f85710063c10063a100637100612100611101906,
  0xb47630b47620b4751, 0xb4a630b4a620b4a51, 0xb4d630b4d620b4d51, 0xb52630b52620b5251,
  0xc71630c71620c7151, 0xc7a630c7a620c7a51, 0xc7b630c7b620c7b51, 0xc7e630c7e620c7e51,
  0xc81630c81620c8151, 0xc82630c82620c8251, 0xc84630c84620c8451, 0xc87630c87620c8751,
  0xc88630c88620c8851, 0xc8b630c8b620c8b51, 0xc8c630c8c620c8c51, 0xc90630c90620c9051,
  0xc91630c91620c9151, 0xc92630c92620c9251, 0xc94630c94620c9451, 0xc97630c97620c9751,
  0xc98630c98620c9851, 0xc99630c99620c9951, 0xc9e630c9e620c9e51, 0xc9f630c9f620c9f51,
  0xca3630ca3620ca351, 0xca4630ca4620ca451]

/-- The rows of successors 960 to 1023. -/
def gotos15 : Array Nat := #[
  0x153cab, 0xaf7b20acc56, 0xaf8b20acd56, 0xc63d510d2b913d3b80c62b20ed46a0e34670ed465,
  0xcecd510d2b913d3b80cebb20ed46a0e34670ed465, 0x10bd7713af6d10bc5114e90c14e90b13ae09, 0xaf4b2,
  0xc04b20b7c56, 0xc05b20b7d56, 0xae056, 0x1542b1154251, 0x1545b1154451, 0x1548b1154751,
  0x154bb1154a51, 0xcc7b20c2456, 0xcc8b20c2556, 0xcc9b20c2656, 0x157eb1157e51, 0x1581b1158051,
  0x1584b1158351, 0x1587b1158651, 0x15a9b115a951, 0x15acb115ab51, 0x15afb115ae51, 0x15b2b115b151,
  0x10c87713af6d10c75114e90c14e90b13c309, 0x144fb60ee5900ca95b1192490e413e, 0x152bb10af5a2,
  0x144fb60f00900ca95b11a4490e4b3e, 0x1491b60f00900c495b11a44911a53e,
  0x13abb60f02900e235b11a84914583e, 0x1166c91165c81417b60d625b, 0x144fb60f13900ca95b11b3490e563e,
  0x1491b60f13900c495b11b34911b63e, 0x13abb60f16900e235b11b94914663e,
  0x13abb60f17900e235b11ba4914663e, 0x13abb60f1d900e235b11c14914663e,
  0x13abb60f1e900e235b11c24914663e, 0x144fb60f2c900ca95b11cb490e603e,
  0x13abb60f2f900e235b11ce4914773e, 0x13abb60f32900e235b11d24914773e,
  0x13abb60f43900e235b11e94914773e, 0x13abb60f44900e235b11ea4914773e,
  0x13abb60f4a900e235b11f14914773e, 0x13abb60f4b900e235b11f24914773e,
  0x144fb60f5c900ca95b11f9490e663e, 0x13abb60f60900e235b12014914863e,
  0x13abb60f7d900e235b122f4914863e, 0x13abb60f80900e235b12334914863e,
  0x13abb60f90900e235b12494914863e, 0x13abb60fbf900e235b129749148b3e, 0x1166c9134dc81417b60d625b,
  0xbcd56, 0x1568b10caca2, 0x157ab10796a2, 0x1596b10c1ca2, 0x15a5b1061fa2, 0x15c4b10af5a2,
  0x1600b10af5a2, 0xcf9d50cf8b20ed46a0e34670ed465, 0x1491b60f04900c495b0f033e,
  0x1491b60f04900c495b0dd93e, 0x1491b60f22900c495b0f203e, 0x1491b60f22900c495b0dda3e]

/-- The rows of successors 1024 to 1087. -/
def gotos16 : Array Nat := #[
  0x1491b60f52900c495b0f503e, 0x1491b60f52900c495b0ddd3e, 0x1491b60f99900c495b0f973e,
  0x1491b60f99900c495b0ddf3e, 0x1491b60fdb900c495b0fd93e, 0x1491b60fdb900c495b0de13e, 0xce2b2,
  0xc01b2, 0xd01d50d00b20ed46a0e34670ed465, 0x13c46d150451116e0d150405,
  0xc65d50c64b20ed46a0e34670ed465, 0x144fb60f01900ca95b11a6490e4e3e,
  0x144fb60f14900ca95b11b4490e553e, 0x1491b60f14900c495b11b44911b73e,
  0x13abb60f1c900e235b11bf4914673e, 0x1491b60f25900c495b0f243e, 0x1417b60d625b,
  0x1491b60f25900c495b0ddb3e, 0x144fb60f2b900ca95b11c8490e5f3e, 0x1491b60f2b900c495b11c84911cc3e,
  0x13abb60f31900e235b11d04914763e, 0x13abb60f35900e235b11d54914763e,
  0x13abb60f49900e235b11ef4914763e, 0x13abb60f4d900e235b11f44914763e, 0x1491b60f53900c495b0f4e3e,
  0x1491b60f53900c495b0ddc3e, 0x144fb60f5b900ca95b11f7490e653e, 0x13abb60f5f900e235b11fd4914853e,
  0x13abb60f62900e235b12034914853e, 0x13abb60f7f900e235b12314914853e,
  0x13abb60f83900e235b12364914853e, 0x13abb60f92900e235b124b4914853e,
  0x13abb60f94900e235b124e4914853e, 0x1491b60f98900c495b0f953e, 0x1491b60f98900c495b0dde3e,
  0x144fb60f9f900ca95b1253490e693e, 0x13abb60fa2900e235b125a49148a3e,
  0x13abb60fbe900e235b129349148a3e, 0x13abb60fc1900e235b129949148a3e,
  0x13abb60fd6900e235b12be49148a3e, 0x1491b60fda900c495b0fd73e, 0x1491b60fda900c495b0de03e,
  0x13abb60fee900e235b12f349148c3e, 0x1491b60ffd900c495b0ffa3e, 0x1491b60ffd900c495b0de23e,
  0xc4f56, 0xceed50cedb20ed46a0e34670ed465, 0xcfbd50cfab20ed46a0e34670ed465,
  0xd03d50d02b20ed46a0e34670ed465, 0xbe4d20be46907d5680c32660be4650be464, 0x116451116405116304,
  0xc3ed20c3e6907f7680c32660c3e650c3e64, 0x13ea6d151c51151c05, 0x13c46d15045114110d150405, 0xce3b2,
  0xc31d20c31690632680c32660c31650c3164, 0xc3ed20c3e690659680c32660c3e650c3e64,
  0xc33d20c33691054680c32660c33650c3364, 0xc3ed20c3e691058680c32660c3e650c3e64,
  0xc35d20c35691062680c32660c35650c3564, 0xc3ed20c3e691066680c32660c3e650c3e64,
  0xd3fb614ed7a115c7807cf5a13b638, 0xc63d50ed46a0e34670ed465, 0xd50b614ed7a115c7807f85a13dd38]

/-- The rows of successors 1088 to 1151. -/
def gotos17 : Array Nat := #[
  0xd55b614ed7a115c78096d5a13f038, 0xc3ed20c3e690c32660c3e650c3e64, 0x116451116405140104,
  0xecc900efa49, 0xecc90117049, 0xe75a30e75940e7590, 0xe78a30e78940e7890,
  0xdefb614ed7a115c78062b5a145038, 0xcecd50ed46a0e34670ed465, 0xdf5b614ed7a115c78065a5a146238,
  0xcf9d50ed46a0e34670ed465, 0xd01d50ed46a0e34670ed465, 0xd4cb614ed7a115c7800e75a13ce38,
  0xd51b614ed7a115c7802f15a13e138, 0xd53b614ed7a115c7807fc5a13e638, 0xc74d50ed46a0e34670ed465,
  0xc75d50ed46a0e34670ed465, 0xc76d50ed46a0e34670ed465, 0xd57b614ed7a115c78033b5a13fc38,
  0xd5ab614ed7a115c7800ee5a13ff38, 0xd5bb614ed7a115c7802f75a140538,
  0xd5db614ed7a115c7808205a140d38, 0xd5fb614ed7a115c7809735a141538, 0xf009011a449,
  0xf086b0f08690c34660f08650f0864, 0xf096b0f09690c34660f09650f0964,
  0xd63b614ed7a115c78035d5a142538, 0xf139011b349, 0xf189011bb49, 0xf199011bc49, 0xf1a9011bd49,
  0xf2c9011cb49, 0xf339011d349, 0xf369011d749, 0xf379011d849, 0xf389011d949, 0xf399011da49,
  0xf3c9011de49, 0xf3d9011df49, 0xf3e9011e049, 0xf459011eb49, 0xf469011ec49, 0xf479011ed49,
  0xf5c9011f949, 0xf6590120a49, 0xf6890120e49, 0xf6990120f49, 0xf6c90121349, 0xf7190121c49,
  0xf7290121d49, 0xf7390121e49, 0xf7490121f49, 0xf7790122349, 0xf7890122449, 0xf8190123449,
  0xf8490123849, 0xf8590123949, 0xf8690123a49, 0xf8790123b49, 0xf8a90123f49, 0xf8b90124049,
  0xfa090125549, 0xfa590126549, 0xfac90127549]

/-- The rows of successors 1152 to 1215. -/
def gotos18 : Array Nat := #[
  0xfaf90127949, 0xfb090127a49, 0xfb390127e49, 0xfb890128749, 0xfc49012a049, 0xfc79012a449,
  0xfc89012a549, 0xfcb9012a949, 0xfd09012b249, 0xfe49012d949, 0xff19012fe49, 0x100ba3100b94100b90,
  0x1018a3101894101890, 0xdf3b614ed7a115c7808585a145a38, 0xdf6b614ed7a115c78101e5a146538,
  0xdf7b614ed7a115c78065d5a146838, 0xcf3d50ed46a0e34670ed465, 0xcf4d50ed46a0e34670ed465,
  0xdf8b614ed7a115c7810265a147038, 0xdfbb614ed7a115c78085e5a147238,
  0xdfcb614ed7a115c7810315a147538, 0xdfdb614ed7a115c78067b5a147b38,
  0xdfeb614ed7a115c78103f5a148338, 0xdffb614ed7a115c78086b5a149238, 0xcfdd50ed46a0e34670ed465,
  0xcfed50ed46a0e34670ed465, 0xe02b614ed7a115c7808745a149b38, 0xd04d50ed46a0e34670ed465,
  0xd05d50ed46a0e34670ed465, 0x115db70c5c670ba435, 0xaeca70acaa60aaaa50aa9a410de07,
  0xee7da0e28cf0ee79d0e2853, 0xf11900f118f0f118e0f118d, 0xf2d900f2d8f0f2d8e0f2d8d,
  0xf57900f578f0f578e0f578d, 0xf58900f588f0f588e0f588d, 0xf59900f598f0f598e0f598d,
  0xf9d900f9d8f0f9d8e0f9d8d, 0xf9e900f9e8f0f9e8e0f9e8d, 0xfdc900fdc8f0fdc8e0fdc8d,
  0xfdd900fdd8f0fdd8e0fdd8d, 0x107014, 0x115db70ce8670bdb35, 0x750a7074fa606a7a506a6a4110c07,
  0xee7da0e81cf0ee79d0e8153, 0xbf6a70b7aa60adaa50ad9a4111507, 0x5e4a705e3a605b1a505b0a4111d07,
  0xcbba70c22a60b26a50b25a4112507, 0x1092da0e81cf10929d0e8153, 0xaeca70acaa60be1a50be0a4113407,
  0xd3b4a0d3b340d3b3010be13, 0x13abb60e235b13b73e, 0x13bcb207d25613bb40, 0x13abb60e235b13c23e,
  0x10cd9013ca49, 0x14ed7a115c7807e65a13d038, 0x13abb60e235b13d13e, 0xed7b60323b3117e83,
  0x13d7b207f356, 0xd3b4a0d3b340d3b30118f13, 0xc6d4a0c6d340c6d3010be13, 0x10d2b913d3b8,
  0x14ed7a115c7800eb5a13f138, 0x10e1b913f9b8]

/-- The rows of successors 1216 to 1279. -/
def gotos19 : Array Nat := #[
  0x13bcb207395613bb40, 0x14ed7a115c78081c5a140038, 0x14ed7a115c7802f55a140338,
  0x14ed7a115c78081e5a140a38, 0x14ed7a115c7809755a141638, 0xf019011a649,
  0x14ed7a115c7803565a142238, 0x10f0d8133db2, 0xd0eb207415613bb40, 0x14ed7a115c7800f35a142438,
  0x14ed7a115c7802fc5a142838, 0x14ed7a115c78083b5a142e38, 0x14ed7a115c78097b5a143338,
  0xf149011b449, 0xf1b9011be49, 0xf2190, 0x14ed7a115c78036e5a143a38, 0xf2b9011c849, 0xf309011cf49,
  0xf349011d449, 0xf3a9011db49, 0xf3b9011dc49, 0xf3f9011e149, 0xf409011e249, 0xf419011e449,
  0xf429011e549, 0xf489011ee49, 0xf4c9011f349, 0xf5190, 0xf5490, 0xf5b9011f749, 0xf5e9011fc49,
  0xf6190120249, 0xf6390120549, 0xf6490120649, 0xf6690120b49, 0xf6790120c49, 0xf6a90121049,
  0xf6b90121149, 0xf6d90121449, 0xf6e90121549, 0xf6f90121749, 0xf7090121849, 0xf7590122049,
  0xf7690122149, 0xf7990122549, 0xf7a90122649, 0xf7b90122849, 0xf7c90122949, 0xf7e90123049,
  0xf8290123549, 0xf8890123c49, 0xf8990123d49, 0xf8c90124149, 0xf8d90124249, 0xf8e90124449,
  0xf8f90124549, 0xf9190124a49, 0xf9390124d49, 0xf9a90, 0xf9f90125349, 0xfa190125949,
  0xfa390126049, 0xfa490126149]

/-- The rows of successors 1280 to 1343. -/
def gotos20 : Array Nat := #[
  0xfa690126649, 0xfa790126749, 0xfa890126949, 0xfa990126a49, 0xfaa90126e49, 0xfab90126f49,
  0xfad90127649, 0xfae90127749, 0xfb190127b49, 0xfb290127c49, 0xfb490127f49, 0xfb590128049,
  0xfb690128249, 0xfb790128349, 0xfb990128849, 0xfba90128949, 0xfbb90128b49, 0xfbc90128c49,
  0xfbd90129249, 0xfc090129849, 0xfc290129b49, 0xfc390129c49, 0xfc59012a149, 0xfc69012a249,
  0xfc99012a649, 0xfca9012a749, 0xfcc9012aa49, 0xfcd9012ab49, 0xfce9012ad49, 0xfcf9012ae49,
  0xfd19012b349, 0xfd29012b449, 0xfd39012b649, 0xfd49012b749, 0xfd59012bd49, 0xfde9012c549,
  0xfe09012cb49, 0xfe19012cc49, 0xfe29012d449, 0xfe39012d549, 0xfe59012da49, 0xfe69012db49,
  0xfe79012dd49, 0xfe89012de49, 0xfe99012e249, 0xfea9012e349, 0xfeb9012e949, 0xfec9012ea49,
  0xfed9012f249, 0xfef9012f949, 0xff09012fa49, 0xff29012ff49, 0xff390130049, 0xff490130249,
  0xff590130349, 0xff690130749, 0xff790130849, 0xff890130e49, 0xff990130f49, 0xffe90131c49,
  0xfff90131d49, 0x100090132b49, 0x100190132c49, 0xdd5cc]

/-- The rows of successors 1344 to 1407. -/
def gotos21 : Array Nat := #[
  0x13e514, 0x140714, 0x140914, 0x142914, 0x142b14, 0x143b14, 0x143d14, 0x144014, 0x144214,
  0x144414, 0x144614, 0x144814, 0x144a14, 0x144b14, 0x1456b2062f56145540,
  0x14ed7a115c78063c5a145b38, 0x1078b61013b3135683, 0x145fb2065456, 0x14ed7a115c78085c5a146a38,
  0x1456b205cd56145540, 0x14ed7a115c7806775a147338, 0x14ed7a115c7810305a147438,
  0x14ed7a115c7806795a147838, 0x14ed7a115c7810395a148138, 0xbdcb205ce56145540,
  0x14ed7a115c7808655a148238, 0x14ed7a115c7810425a148438, 0x14ed7a115c7806855a148838,
  0x14ed7a115c78104c5a148938, 0x14ed7a115c78086e5a149538, 0x1456b206ea56145540,
  0xbdcb206ec56145540, 0x14ed7a115c7808795a14a138, 0xd0eb209165613bb40, 0x13bcb209155613bb40,
  0xbdcb2098f56145540, 0x1456b2098d56145540, 0xbecb207a256145540, 0x1456b207a156145540,
  0xd3b4a0d3b340d3b30110313, 0x13abb60e235b14513e, 0x13abb60e235b145c3e, 0xe28cf0e2853,
  0x13bda313bd9413bd90, 0x37c7f03015102e535, 0x13abb60e235b13d23e, 0xe35cf0e3553, 0xcf7670bdd35,
  0x13dca313dc9413dc90, 0x151851151805, 0x118351118305, 0x13abb60e235b13e23e, 0xe3cc70e3c280e3c27,
  0x10db9013ee49, 0x1195d7, 0x13abb60e235b13f73e, 0x119ad7, 0x140251140205, 0x13abb60e235b14083e,
  0xe4ac70e4a280e4a27, 0x10e64a10e63410e630, 0x11a34a11a33411a330, 0x144fb60ca95b0e4b3e, 0x9e714]

/-- The rows of successors 1408 to 1471. -/
def gotos22 : Array Nat := #[
  0xe51db, 0x10f1d8133eb2, 0x142651142605, 0x13abb60e235b142c3e, 0x9e814, 0x144fb60ca95b0e563e,
  0x1491b60c495b11b63e, 0x9e914, 0x1491b60c495b0f203e, 0xe59db, 0xe5bdb, 0x13abb60e235b143e3e,
  0x9ea14, 0x9eb14, 0x144fb60ca95b0e603e, 0x1491b60c495b11cd3e, 0x1491b60c495b0f503e, 0x133db2,
  0x13abb60e235b14433e, 0x9ec14, 0x9ed14, 0x144fb60ca95b0e663e, 0x1491b60c495b11fb3e,
  0x1491b60c495b0f973e, 0x13abb60e235b14473e, 0x9ee14, 0x9ef14, 0x144fb60ca95b0e6a3e,
  0x1491b60c495b0fd93e, 0x9f014, 0x9f114, 0x144fb60ca95b0e6e3e, 0x1491b60c495b0ffc3e, 0x9f214,
  0x9f314, 0x1491b60c495b10043e, 0x9f414, 0xe81cf0e8153, 0x106f7f0deb510d1e35, 0xcff670bde35,
  0x1361d7, 0x1491b60c495b0dda3e, 0xe89db, 0x1491b60c495b0ddd3e, 0xe8fdb, 0x1491b60c495b0ddf3e,
  0x1491b60c495b0de13e, 0x1491b60c495b0de33e, 0x1491b60c495b0de53e, 0x1372d7, 0xe99db, 0xe9adb,
  0x137fd7, 0xe9edb, 0xe9fdb, 0x1387d7, 0xea3db, 0xea4db, 0x1390d7, 0xea8db, 0xea9db, 0x1394d7,
  0x13abb60e235b14663e, 0x13abb60e235b145d3e]

/-- The rows of successors 1472 to 1535. -/
def gotos23 : Array Nat := #[
  0x13abb60e235b14773e, 0x13abb60e235b146e3e, 0x13abb60e235b14863e, 0x13abb60e235b148b3e,
  0x13abb60e235b148d3e, 0x13abb60e235b148f3e, 0x37c7f030151113835, 0x4fb7204fb5904ad58,
  0x144fb60ca95b0ed23e, 0x15166713db35, 0x144fb60ca95b0edc3e, 0x13abb60e235b13e43e,
  0x13abb60e235b13e73e, 0x134ec9, 0x118e49, 0xee7da0ee79d, 0x144fb60ca95b0ee93e,
  0x13abb60e235b13f83e, 0xec14, 0x33db3119783, 0x144fb60ca95b0ef63e, 0x13abb60e235b14043e, 0x2f614,
  0x13abb60e235b14063e, 0x13abb60e235b140b3e, 0x13abb60e235b140c3e, 0x11a749, 0xf07da0f079d,
  0x13abb60e235b14203e, 0xf014, 0x11b0d9142349, 0x141d90, 0x13abb60e235b14273e, 0x2f914,
  0x13abb60e235b142a3e, 0x13abb60e235b142d3e, 0x144fb60ca95b0e553e, 0x11b549, 0x11b849, 0x11c049,
  0x13abb60e235b143c3e, 0x144fb60ca95b0e5f3e, 0x11c949, 0x11ca49, 0x1491b60c495b11cc3e, 0x11d149,
  0x11d649, 0x11dd49, 0x11e349, 0x11e649, 0x11e749, 0x11e849, 0x11f049, 0x11f549,
  0x1491b60c495b0f4e3e, 0x133eb2, 0x13abb60e235b14413e, 0x144fb60ca95b0e653e, 0x11f649, 0x11f849,
  0x1491b60c495b11fa3e, 0x11fe49, 0x11ff49, 0x120049]

/-- The rows of successors 1536 to 1599. -/
def gotos24 : Array Nat := #[
  0x120449, 0x120749, 0x120849, 0x120949, 0x120d49, 0x121249, 0x121649, 0x121949, 0x121a49,
  0x121b49, 0x122249, 0x122749, 0x122a49, 0x122b49, 0x122c49, 0x122d49, 0x122e49, 0x123249,
  0x123749, 0x123e49, 0x124349, 0x124649, 0x124749, 0x124849, 0x124c49, 0x124f49, 0x125049,
  0x125149, 0x1491b60c495b0f953e, 0x13abb60e235b14453e, 0x144fb60ca95b0e693e, 0x125249, 0x125449,
  0x1491b60c495b12563e, 0x125749, 0x125849, 0x125b49, 0x125c49, 0x125d49, 0x125e49, 0x125f49,
  0x126249, 0x126349, 0x126449, 0x126849, 0x126b49, 0x126c49, 0x126d49, 0x127049, 0x127149,
  0x127249, 0x127349, 0x127449, 0x127849, 0x127d49, 0x128149, 0x128449, 0x128549, 0x128649,
  0x128a49, 0x128d49, 0x128e49, 0x128f49, 0x129049]

/-- The rows of successors 1600 to 1663. -/
def gotos25 : Array Nat := #[
  0x129149, 0x129449, 0x129549, 0x129649, 0x129a49, 0x129d49, 0x129e49, 0x129f49, 0x12a349,
  0x12a849, 0x12ac49, 0x12af49, 0x12b049, 0x12b149, 0x12b549, 0x12b849, 0x12b949, 0x12ba49,
  0x12bb49, 0x12bc49, 0x12bf49, 0x12c049, 0x12c149, 0x12c249, 0x12c349, 0x1491b60c495b0fd73e,
  0x13abb60e235b14493e, 0x144fb60ca95b0e6d3e, 0x12c449, 0x12c649, 0x12c749, 0x12c849, 0x12c949,
  0x12ca49, 0x12cd49, 0x12ce49, 0x12cf49, 0x12d049, 0x12d149, 0x12d249, 0x12d349, 0x12d649,
  0x12d749, 0x12d849, 0x12dc49, 0x12df49, 0x12e049, 0x12e149, 0x12e449, 0x12e549, 0x12e649,
  0x12e749, 0x12e849, 0x12eb49, 0x12ec49, 0x12ed49, 0x12ee49, 0x12ef49, 0x12f049, 0x12f149,
  0x12f449, 0x12f549, 0x12f649, 0x12f749]

/-- The rows of successors 1664 to 1727. -/
def gotos26 : Array Nat := #[
  0x12f849, 0x12fb49, 0x12fc49, 0x12fd49, 0x130149, 0x130449, 0x130549, 0x130649, 0x130949,
  0x130a49, 0x130b49, 0x130c49, 0x130d49, 0x131049, 0x131149, 0x131249, 0x131349, 0x131449,
  0x131549, 0x131649, 0x1491b60c495b0ffa3e, 0x131749, 0x144fb60ca95b0e703e, 0x131849, 0x131949,
  0x131a49, 0x131b49, 0x131e49, 0x131f49, 0x132049, 0x132149, 0x132249, 0x132349, 0x132449,
  0x132549, 0x132649, 0x132749, 0x132849, 0x132949, 0x132a49, 0x132d49, 0x132e49, 0x132f49,
  0x133049, 0x133149, 0x133249, 0x133349, 0x133449, 0x133549, 0x1491b60c495b10023e, 0x133649,
  0x133749, 0x133849, 0x133949, 0x1491b60c495b10053e, 0xa66720a665909e658, 0x156267146135,
  0x1166c9, 0x107cda107c9d, 0x85d14, 0x1028b3135e83, 0x108214, 0x86214, 0x1363d9142349]

/-- The rows of successors 1728 to 1791. -/
def gotos27 : Array Nat := #[
  0x108614, 0x1491b60c495b0ddc3e, 0x1491b60c495b0dde3e, 0x1491b60c495b0de03e, 0x1491b60c495b0de23e,
  0x1491b60c495b0de43e, 0x1491b60c495b0de63e, 0x157567149435, 0x1092da10929d, 0x87014, 0x87614,
  0x15916714a335, 0x1096da10969d, 0x1098da10989d, 0x144fb60ca95b10773e, 0x144fb60ca95b107a3e,
  0x13abb60e235b14693e, 0x144fb60ca95b107d3e, 0x13abb60e235b146f3e, 0x144fb60ca95b10813e,
  0x13abb60e235b14763e, 0x13abb60e235b14793e, 0x13abb60e235b147a3e, 0x13abb60e235b14803e,
  0x13abb60e235b14853e, 0x13abb60e235b14873e, 0x13abb60e235b148a3e, 0x13abb60e235b148c3e,
  0x13abb60e235b148e3e, 0x13abb60e235b14903e, 0x144fb60ca95b10913e, 0x144fb60ca95b10933e,
  0x13abb60e235b14993e, 0x13abb60e235b14a03e, 0x13abb60e235b14c03e, 0x13abb60e235b14c23e, 0x10c1cd,
  0x10c2ce, 0x13be0a, 0x13c60e, 0x13c70e, 0x10cbc6, 0x10ccc6, 0x1178cb, 0x10d4cd, 0x10d5ce,
  0x10d7cc, 0x13de0a, 0x13e80e, 0x13e90e, 0x13eb0e, 0x151f0c151f0b, 0x10dac6, 0x13ef49, 0x10ceca,
  0x10dcd6, 0x13f3b615255b, 0x13fab8, 0x13fbb7, 0x10e4a10e468115e435, 0x140e0e, 0x141449, 0x10e7d6,
  0x141fb615345b]

/-- The rows of successors 1792 to 1855. -/
def gotos28 : Array Nat := #[
  0x1421b8, 0x10f1d8, 0x143249, 0x1436b60d705b, 0x10ebd7, 0x10f4d3, 0x10f5d4, 0x11c5a10f288115e435,
  0x10f6d8, 0x10fbd3, 0x10fcd4, 0x142349, 0x1106cd, 0x1107ce, 0x14570a, 0x1109c6, 0x110ac6,
  0x1353cb, 0x14630a, 0x1113cd, 0x1114ce, 0x111bcd, 0x111cce, 0x1123cd, 0x1124ce, 0x112bcd,
  0x112cce, 0x112fcd, 0x1130ce, 0x14beb615635b, 0x14c1b6156a5b, 0x14c4b615765b, 0x14c5b6157c5b,
  0x14c7b615925b, 0x14c8b615985b, 0x14cab615a15b, 0x14cbb615a75b, 0x14cfb615c25b, 0x14d0b615c75b,
  0x14d6b615fd5b, 0x14d8b616035b, 0x231a, 0x10c403, 0x14fdb6, 0x1167c9, 0x1168c8, 0x1169c8,
  0x116ac9, 0x1173d1, 0x1177ca, 0x1179cb, 0x115db7, 0x150f7a, 0x117ddc, 0x1511590e3658, 0x118251,
  0x1185c4, 0x118ac5, 0x118c35, 0x1191d1, 0x2f314, 0xadf56, 0x1196dc, 0x33cb3]

/-- The rows of successors 1856 to 1919. -/
def gotos29 : Array Nat := #[
  0x1199ca, 0x119cc4, 0x140f6d, 0x14106d, 0x119fc5, 0x11aedd, 0x357b3, 0x11b1d9, 0x142f6d,
  0x14306d, 0x153651, 0x153a90, 0x11c3dd, 0x11c6d9, 0x134fc9, 0x1350c8, 0x1351d1, 0x1352ca,
  0x1355dc, 0x75d56, 0x1027b3, 0x1360ca, 0x1362dd, 0x103ab3, 0x1364d9, 0x1369c8, 0x136ad1, 0xbcc56,
  0x1371ca, 0x1377dd, 0x5ef56, 0x137eca, 0x1380dd, 0xc4e56, 0x1386ca, 0x138cdd, 0x138fca, 0x1393ca,
  0x331a, 0x110803, 0x134bb7, 0x155e590e8358, 0x15f8b6, 0x4a1a, 0x212b, 0x222b, 0x13b02b, 0x242b,
  0x2c714, 0xe2a5b, 0x10c90a, 0x31926, 0x251a, 0x7e55a, 0x7e714, 0x32214, 0x32485, 0x10d90a,
  0x13ec2f, 0x118d90, 0x33185, 0x2f22b, 0x33514, 0xea5a]

/-- The rows of successors 1920 to 1983. -/
def gotos30 : Array Nat := #[
  0x15285b, 0x80b5a, 0x80d14, 0x81014, 0x4e056, 0xef35b, 0x81856, 0x81b5a, 0x2f45a, 0x81d5a,
  0x81f14, 0x9745a, 0xef5a, 0x15335b, 0x83114, 0xf114, 0x3555a, 0xf0d5b, 0xf25a, 0x8365a, 0x2f85a,
  0x2fa14, 0x2fb5a, 0x8375a, 0x83814, 0x83914, 0x83a5a, 0x97a5a, 0x97c5a, 0xd6f5b, 0x143790,
  0x153d5b, 0xf414, 0x3665a, 0xf55a, 0x36d5a, 0x2fd14, 0x2fe5a, 0x84814, 0x8495a, 0x9815a, 0x2ff14,
  0xd8e5b, 0x3775a, 0x30014, 0xcaa5b, 0x63b5a, 0x63d14, 0x101214, 0x101485, 0x102285, 0x85b5a,
  0x6605a, 0x66314, 0x66814, 0xa6956, 0x67356, 0x6765a, 0x102f5a, 0x6785a, 0x67a14, 0x8605a,
  0x67c14, 0x86314]

/-- The rows of successors 1984 to 2040. -/
def gotos31 : Array Nat := #[
  0x10385a, 0x8645a, 0x6805a, 0x10405a, 0x10415a, 0x6815a, 0x68214, 0x68314, 0x6845a, 0x86714,
  0x10465a, 0x8685a, 0x104b5a, 0x104d5a, 0x68614, 0x6875a, 0x10525a, 0xc4a5b, 0x86d5a, 0x8755a,
  0x87714, 0x8785a, 0x87a14, 0x87b5a, 0x312b, 0x322b, 0x342b, 0x351a, 0x15665b, 0x10805b, 0x135b35,
  0x15695b, 0x10855b, 0x108714, 0x156b5b, 0x108a14, 0x15795b, 0x157b5b, 0x157d5b, 0x15955b,
  0x15975b, 0x15995b, 0x15a45b, 0x15a65b, 0x15a85b, 0x15c35b, 0x15c65b, 0x15ca5b, 0x492b, 0x4b2b,
  0x4c1a, 0x15fe5b, 0x10b35b, 0x16025b, 0x10b55b, 0x16045b, 0x562b]

/-- The rows of successors by their numbers. -/
def gotos : Array (Array Nat) := #[
  gotos0, gotos1, gotos2, gotos3, gotos4, gotos5, gotos6, gotos7, gotos8, gotos9, gotos10, gotos11,
  gotos12, gotos13, gotos14, gotos15, gotos16, gotos17, gotos18, gotos19, gotos20, gotos21,
  gotos22, gotos23, gotos24, gotos25, gotos26, gotos27, gotos28, gotos29, gotos30, gotos31]

end UiHarness.Syntax.Automaton.Markup
