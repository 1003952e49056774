import UiHarness.Syntax.Automaton

/-!
# The productions of the grammar

Each production is given by its phrase, the number of its parts, its rank and the number of the list
of the names that its parts have in it.
-/

namespace UiHarness.Syntax.Automaton

/-- Productions 0 to 63. -/
def productions0 : Array Production := #[
  ⟨171, 0, 0, 0⟩, ⟨171, 1, 0, 0⟩, ⟨216, 1, 0, 1⟩, ⟨242, 1, 0, 1⟩, ⟨178, 1, 0, 0⟩, ⟨207, 1, 0, 0⟩,
  ⟨217, 1, 0, 0⟩, ⟨216, 1, 0, 0⟩, ⟨242, 1, 0, 0⟩, ⟨186, 1, 0, 0⟩, ⟨365, 1, 0, 0⟩, ⟨177, 1, 0, 0⟩,
  ⟨251, 1, 0, 0⟩, ⟨215, 1, 0, 0⟩, ⟨245, 1, 0, 0⟩, ⟨366, 1, 0, 0⟩, ⟨233, 1, 0, 0⟩, ⟨171, 2, 0, 0⟩,
  ⟨172, 2, 0, 0⟩, ⟨298, 1, 0, 0⟩, ⟨297, 2, 0, 0⟩, ⟨269, 1, 0, 2⟩, ⟨371, 1, 0, 0⟩, ⟨372, 1, 0, 0⟩,
  ⟨191, 2, 0, 0⟩, ⟨218, 2, 0, 0⟩, ⟨219, 2, 0, 0⟩, ⟨269, 1, 0, 0⟩, ⟨307, 1, 0, 0⟩, ⟨308, 1, 0, 0⟩,
  ⟨249, 2, 0, 0⟩, ⟨280, 1, 0, 1⟩, ⟨280, 1, 0, 0⟩, ⟨180, 1, 0, 0⟩, ⟨190, 1, 0, 0⟩, ⟨264, 1, -1, 1⟩,
  ⟨262, 2, 0, 0⟩, ⟨264, 1, -1, 0⟩, ⟨311, 1, 0, 0⟩, ⟨234, 1, 0, 0⟩, ⟨309, 1, 0, 0⟩, ⟨238, 2, 0, 0⟩,
  ⟨200, 2, 0, 0⟩, ⟨202, 2, 0, 0⟩, ⟨203, 2, 0, 0⟩, ⟨204, 2, 0, 0⟩, ⟨205, 2, 0, 0⟩, ⟨217, 2, 0, 0⟩,
  ⟨373, 1, 0, 0⟩, ⟨374, 1, 0, 0⟩, ⟨222, 2, 0, 0⟩, ⟨223, 2, 0, 0⟩, ⟨225, 2, 0, 0⟩, ⟨227, 1, 0, 0⟩,
  ⟨237, 2, 0, 0⟩, ⟨345, 1, 0, 0⟩, ⟨327, 1, 0, 0⟩, ⟨348, 1, 0, 0⟩, ⟨343, 1, 0, 0⟩, ⟨327, 1, 0, 3⟩,
  ⟨354, 1, 0, 3⟩, ⟨327, 1, 0, 4⟩, ⟨320, 1, 0, 0⟩, ⟨250, 2, 0, 0⟩]

/-- Productions 64 to 127. -/
def productions1 : Array Production := #[
  ⟨252, 2, 0, 0⟩, ⟨376, 1, 0, 0⟩, ⟨377, 1, 0, 0⟩, ⟨378, 1, 0, 0⟩, ⟨253, 2, 0, 0⟩, ⟨258, 2, 0, 0⟩,
  ⟨294, 2, 0, 0⟩, ⟨296, 2, 0, 0⟩, ⟨235, 1, 0, 0⟩, ⟨236, 2, 0, 0⟩, ⟨187, 2, 0, 0⟩, ⟨281, 2, 0, 0⟩,
  ⟨289, 2, 0, 0⟩, ⟨251, 2, 0, 0⟩, ⟨233, 2, 0, 0⟩, ⟨286, 2, 0, 0⟩, ⟨365, 2, 0, 0⟩, ⟨366, 2, 0, 0⟩,
  ⟨172, 3, 0, 0⟩, ⟨241, 3, 0, 1⟩, ⟨176, 1, 0, 0⟩, ⟨174, 2, 0, 0⟩, ⟨175, 1, 0, 0⟩, ⟨208, 3, -1, 5⟩,
  ⟨232, 3, 0, 1⟩, ⟨298, 2, 0, 0⟩, ⟨218, 3, 0, 6⟩, ⟨219, 3, 0, 7⟩, ⟨371, 2, 0, 6⟩, ⟨372, 2, 0, 7⟩,
  ⟨372, 2, 0, 0⟩, ⟨371, 2, 0, 0⟩, ⟨191, 3, 0, 0⟩, ⟨265, 2, 0, 8⟩, ⟨265, 2, 0, 0⟩, ⟨246, 2, 0, 0⟩,
  ⟨219, 3, 0, 0⟩, ⟨218, 3, 0, 0⟩, ⟨183, 2, 0, 0⟩, ⟨184, 1, 0, 0⟩, ⟨256, 3, 0, 0⟩, ⟨179, 3, 0, 0⟩,
  ⟨201, 3, 0, 0⟩, ⟨190, 2, 0, 0⟩, ⟨188, 3, 0, 0⟩, ⟨189, 3, 0, 0⟩, ⟨193, 3, 0, 0⟩, ⟨194, 3, 0, 0⟩,
  ⟨196, 3, 0, 0⟩, ⟨311, 2, 0, 0⟩, ⟨214, 3, 0, 0⟩, ⟨262, 3, 0, 0⟩, ⟨310, 2, 0, 0⟩, ⟨309, 2, 0, 0⟩,
  ⟨198, 3, 0, 0⟩, ⟨200, 3, 0, 0⟩, ⟨202, 3, 0, 9⟩, ⟨203, 3, 0, 9⟩, ⟨205, 3, 0, 0⟩, ⟨206, 3, 0, 0⟩,
  ⟨217, 3, 0, 0⟩, ⟨373, 2, 0, 0⟩, ⟨374, 2, 0, 0⟩, ⟨222, 3, 0, 0⟩]

/-- Productions 128 to 191. -/
def productions2 : Array Production := #[
  ⟨223, 3, 0, 0⟩, ⟨261, 2, 0, 0⟩, ⟨379, 1, 0, 0⟩, ⟨279, 1, 0, 0⟩, ⟨225, 3, 0, 10⟩, ⟨226, 3, 0, 10⟩,
  ⟨292, 1, 0, 0⟩, ⟨291, 2, 0, 0⟩, ⟨293, 2, 0, 0⟩, ⟨225, 3, 0, 0⟩, ⟨227, 2, 0, 0⟩, ⟨228, 3, 0, 0⟩,
  ⟨237, 3, 0, 0⟩, ⟨255, 3, 0, 0⟩, ⟨350, 2, 0, 0⟩, ⟨351, 1, 0, 0⟩, ⟨352, 1, 0, 0⟩, ⟨339, 2, 0, 0⟩,
  ⟨354, 2, 0, 10⟩, ⟨360, 2, 0, 0⟩, ⟨325, 1, 0, 0⟩, ⟨363, 2, 0, 0⟩, ⟨362, 2, 0, 0⟩, ⟨344, 2, 0, 0⟩,
  ⟨389, 1, 0, 0⟩, ⟨329, 2, 0, 0⟩, ⟨332, 2, 0, 3⟩, ⟨354, 2, 0, 3⟩, ⟨361, 2, 0, 0⟩, ⟨346, 2, 0, 0⟩,
  ⟨330, 2, 0, 10⟩, ⟨340, 2, 0, 0⟩, ⟨348, 2, 0, 11⟩, ⟨317, 2, 0, 0⟩, ⟨332, 2, 0, 0⟩, ⟨349, 3, 0, 0⟩,
  ⟨353, 3, 0, 0⟩, ⟨252, 3, 0, 0⟩, ⟨376, 2, 0, 0⟩, ⟨377, 2, 0, 0⟩, ⟨253, 3, 0, 0⟩, ⟨378, 2, 0, 0⟩,
  ⟨241, 3, 0, 0⟩, ⟨232, 3, 0, 0⟩, ⟨248, 3, 0, 0⟩, ⟨260, 2, 0, 0⟩, ⟨294, 3, 0, 0⟩, ⟨301, 3, 0, 12⟩,
  ⟨303, 3, 0, 0⟩, ⟨257, 2, 0, 0⟩, ⟨239, 3, 0, 13⟩, ⟨239, 3, 0, 0⟩, ⟨236, 3, 0, 0⟩, ⟨287, 3, 0, 0⟩,
  ⟨375, 2, 0, 0⟩, ⟨288, 3, 0, 0⟩, ⟨243, 3, 0, 0⟩, ⟨315, 2, 0, 0⟩, ⟨319, 2, 0, 0⟩, ⟨334, 2, 0, 0⟩,
  ⟨233, 3, 0, 0⟩, ⟨173, 3, 0, 0⟩, ⟨181, 2, 0, 0⟩, ⟨172, 4, 0, 0⟩]

/-- Productions 192 to 255. -/
def productions3 : Array Production := #[
  ⟨175, 2, 0, 0⟩, ⟨174, 3, 0, 0⟩, ⟨224, 3, 0, 13⟩, ⟨224, 3, 0, 14⟩, ⟨221, 3, 0, 15⟩,
  ⟨218, 4, 0, 6⟩, ⟨219, 4, 0, 7⟩, ⟨270, 3, 0, 0⟩, ⟨219, 4, 0, 0⟩, ⟨221, 3, 0, 0⟩, ⟨218, 4, 0, 0⟩,
  ⟨267, 3, 0, 0⟩, ⟨268, 3, 0, 0⟩, ⟨266, 3, 0, 0⟩, ⟨191, 4, 0, 0⟩, ⟨182, 3, 0, 0⟩, ⟨179, 4, 0, 0⟩,
  ⟨184, 2, 0, 0⟩, ⟨183, 3, 0, 0⟩, ⟨185, 2, 0, 0⟩, ⟨180, 3, 0, 0⟩, ⟨244, 2, 0, 0⟩, ⟨190, 3, 0, 0⟩,
  ⟨369, 2, 0, 0⟩, ⟨188, 4, 0, 0⟩, ⟨189, 4, 0, 0⟩, ⟨303, 4, 0, 0⟩, ⟨193, 4, 0, 0⟩, ⟨209, 2, 0, 0⟩,
  ⟨370, 1, 0, 0⟩, ⟨196, 4, 0, 0⟩, ⟨214, 4, 0, 0⟩, ⟨262, 4, 0, 0⟩, ⟨380, 2, 0, 0⟩, ⟨311, 3, 0, 0⟩,
  ⟨310, 3, 0, 0⟩, ⟨309, 3, 0, 0⟩, ⟨199, 4, 0, 0⟩, ⟨212, 2, 0, 0⟩, ⟨213, 2, 0, 0⟩, ⟨200, 4, 0, 0⟩,
  ⟨222, 4, 0, 0⟩, ⟨223, 4, 0, 0⟩, ⟨220, 3, 0, 0⟩, ⟨263, 2, 0, 0⟩, ⟨279, 2, 0, 0⟩, ⟨379, 2, 0, 0⟩,
  ⟨282, 2, 0, 0⟩, ⟨261, 3, 0, 0⟩, ⟨225, 4, 0, 10⟩, ⟨226, 4, 0, 10⟩, ⟨292, 2, 0, 0⟩, ⟨291, 3, 0, 0⟩,
  ⟨293, 3, 0, 0⟩, ⟨225, 4, 0, 0⟩, ⟨232, 4, 0, 8⟩, ⟨228, 4, 0, 0⟩, ⟨232, 4, 0, 0⟩, ⟨230, 4, 0, 0⟩,
  ⟨284, 4, 0, 0⟩, ⟨229, 4, 0, 0⟩, ⟨237, 4, 0, 0⟩, ⟨241, 4, 0, 8⟩, ⟨241, 4, 0, 0⟩]

/-- Productions 256 to 319. -/
def productions4 : Array Production := #[
  ⟨255, 4, 0, 0⟩, ⟨357, 2, 0, 0⟩, ⟨352, 2, 0, 0⟩, ⟨350, 3, 0, 0⟩, ⟨337, 2, 0, 0⟩, ⟨338, 2, 0, 0⟩,
  ⟨354, 3, 0, 10⟩, ⟨347, 3, 0, 0⟩, ⟨324, 2, 0, 0⟩, ⟨321, 2, 0, 0⟩, ⟨323, 2, 0, 0⟩, ⟨360, 3, 0, 0⟩,
  ⟨329, 3, 0, 0⟩, ⟨389, 2, 0, 0⟩, ⟨355, 2, 0, 0⟩, ⟨356, 2, 0, 0⟩, ⟨300, 3, 0, 16⟩, ⟨354, 3, 0, 3⟩,
  ⟨316, 3, 0, 13⟩, ⟨316, 3, 0, 0⟩, ⟨364, 3, 0, 0⟩, ⟨349, 4, 0, 0⟩, ⟨386, 2, 0, 0⟩, ⟨363, 3, 0, 0⟩,
  ⟨362, 3, 0, 0⟩, ⟨359, 3, 0, 0⟩, ⟨353, 4, 0, 0⟩, ⟨391, 2, 0, 0⟩, ⟨254, 3, 0, 0⟩, ⟨285, 3, 0, 0⟩,
  ⟨259, 3, 0, 13⟩, ⟨260, 3, 0, 0⟩, ⟨295, 4, 0, 16⟩, ⟨302, 2, 0, 10⟩, ⟨302, 2, 0, 0⟩,
  ⟨301, 4, 0, 17⟩, ⟨304, 2, 0, 0⟩, ⟨257, 3, 0, 0⟩, ⟨240, 4, 0, 0⟩, ⟨236, 4, 0, 0⟩, ⟨318, 2, 0, 0⟩,
  ⟨225, 4, 0, 16⟩, ⟨226, 4, 0, 16⟩, ⟨172, 5, 0, 0⟩, ⟨174, 4, 0, 0⟩, ⟨367, 2, 0, 0⟩, ⟨175, 3, 0, 0⟩,
  ⟨306, 5, 0, 10⟩, ⟨266, 4, 0, 0⟩, ⟨179, 5, 0, 0⟩, ⟨184, 3, 0, 1⟩, ⟨184, 3, 0, 0⟩, ⟨183, 4, 0, 0⟩,
  ⟨368, 2, 0, 0⟩, ⟨299, 5, 0, 0⟩, ⟨192, 2, 0, 0⟩, ⟨211, 2, 0, 0⟩, ⟨209, 3, 0, 0⟩, ⟨370, 2, 0, 0⟩,
  ⟨262, 5, 0, 0⟩, ⟨311, 4, 0, 0⟩, ⟨310, 4, 0, 0⟩, ⟨199, 5, 0, 0⟩, ⟨282, 3, 0, 0⟩]

/-- Productions 320 to 383. -/
def productions5 : Array Production := #[
  ⟨279, 3, 0, 0⟩, ⟨283, 3, 0, 0⟩, ⟨379, 3, 0, 0⟩, ⟨226, 5, 0, 10⟩, ⟨225, 5, 0, 10⟩, ⟨385, 2, 0, 0⟩,
  ⟨230, 5, 0, 0⟩, ⟨284, 5, 0, 0⟩, ⟨228, 5, 0, 0⟩, ⟨229, 5, 0, 0⟩, ⟨231, 5, 0, 0⟩, ⟨350, 4, 0, 0⟩,
  ⟨357, 3, 0, 0⟩, ⟨352, 3, 0, 0⟩, ⟨390, 2, 0, 0⟩, ⟨335, 3, 0, 13⟩, ⟨335, 3, 0, 0⟩, ⟨354, 4, 0, 10⟩,
  ⟨322, 3, 0, 0⟩, ⟨360, 4, 0, 0⟩, ⟨392, 2, 0, 0⟩, ⟨326, 4, 0, 0⟩, ⟨328, 3, 0, 0⟩, ⟨330, 4, 0, 10⟩,
  ⟨349, 5, 0, 0⟩, ⟨341, 4, 0, 0⟩, ⟨364, 4, 0, 0⟩, ⟨353, 5, 0, 0⟩, ⟨295, 5, 0, 16⟩, ⟨302, 3, 0, 10⟩,
  ⟨302, 3, 0, 0⟩, ⟨301, 5, 0, 18⟩, ⟨304, 3, 0, 0⟩, ⟨305, 2, 0, 0⟩, ⟨257, 4, 0, 0⟩, ⟨247, 5, 0, 0⟩,
  ⟨240, 5, 0, 0⟩, ⟨333, 3, 0, 0⟩, ⟨333, 3, 0, 1⟩, ⟨225, 5, 0, 16⟩, ⟨226, 5, 0, 16⟩, ⟨225, 5, 0, 0⟩,
  ⟨295, 5, 0, 19⟩, ⟨175, 4, 0, 0⟩, ⟨174, 5, 0, 0⟩, ⟨306, 6, 0, 10⟩, ⟨266, 5, 0, 0⟩, ⟨179, 6, 0, 0⟩,
  ⟨184, 4, 0, 8⟩, ⟨184, 4, 0, 0⟩, ⟨183, 5, 0, 0⟩, ⟨211, 3, 0, 0⟩, ⟨210, 3, 0, 0⟩, ⟨197, 5, 0, 8⟩,
  ⟨197, 5, 0, 0⟩, ⟨195, 6, 0, 0⟩, ⟨311, 5, 0, 0⟩, ⟨282, 4, 0, 0⟩, ⟨342, 3, 0, 3⟩, ⟨358, 4, 0, 0⟩,
  ⟨279, 4, 0, 0⟩, ⟨283, 4, 0, 0⟩, ⟨226, 6, 0, 10⟩, ⟨230, 6, 0, 0⟩]

/-- Productions 384 to 447. -/
def productions6 : Array Production := #[
  ⟨231, 6, 0, 0⟩, ⟨229, 6, 0, 0⟩, ⟨350, 5, 0, 0⟩, ⟨357, 4, 0, 0⟩, ⟨352, 4, 0, 0⟩, ⟨336, 4, 0, 0⟩,
  ⟨360, 5, 0, 0⟩, ⟨326, 5, 0, 0⟩, ⟨295, 6, 0, 16⟩, ⟨387, 2, 0, 10⟩, ⟨387, 2, 0, 0⟩, ⟨304, 4, 0, 0⟩,
  ⟨388, 2, 0, 0⟩, ⟨226, 6, 0, 16⟩, ⟨225, 6, 0, 16⟩, ⟨295, 6, 0, 19⟩, ⟨266, 6, 0, 0⟩,
  ⟨290, 6, 0, 0⟩, ⟨210, 4, 0, 0⟩, ⟨197, 6, 0, 0⟩, ⟨195, 7, 0, 0⟩, ⟨212, 5, 0, 0⟩, ⟨312, 2, 0, 0⟩,
  ⟨313, 2, 0, 0⟩, ⟨314, 2, 0, 0⟩, ⟨282, 5, 0, 0⟩, ⟨279, 5, 0, 0⟩, ⟨358, 5, 0, 0⟩, ⟨283, 5, 0, 0⟩,
  ⟨231, 7, 0, 0⟩, ⟨350, 6, 0, 0⟩, ⟨352, 5, 0, 0⟩, ⟨357, 5, 0, 0⟩, ⟨336, 5, 0, 0⟩, ⟨326, 6, 0, 0⟩,
  ⟨294, 7, 0, 20⟩, ⟨304, 5, 0, 0⟩, ⟨226, 7, 0, 16⟩, ⟨295, 7, 0, 19⟩, ⟨266, 7, 0, 0⟩,
  ⟨197, 7, 0, 0⟩, ⟨195, 8, 0, 0⟩, ⟨212, 6, 0, 0⟩, ⟨358, 6, 0, 8⟩, ⟨342, 5, 0, 3⟩, ⟨358, 6, 0, 0⟩,
  ⟨282, 6, 0, 0⟩, ⟨279, 6, 0, 0⟩, ⟨283, 6, 0, 0⟩, ⟨352, 6, 0, 0⟩, ⟨331, 7, 0, 0⟩, ⟨266, 8, 0, 0⟩,
  ⟨195, 9, 0, 0⟩, ⟨282, 7, 0, 0⟩, ⟨279, 7, 0, 0⟩, ⟨358, 7, 0, 21⟩, ⟨358, 7, 0, 0⟩, ⟨283, 7, 0, 0⟩,
  ⟨352, 7, 0, 0⟩, ⟨266, 9, 0, 0⟩, ⟨358, 8, 0, 22⟩, ⟨358, 8, 0, 0⟩, ⟨282, 8, 0, 0⟩, ⟨279, 8, 0, 0⟩]

/-- Productions 448 to 487. -/
def productions7 : Array Production := #[
  ⟨266, 10, 0, 0⟩, ⟨279, 9, 0, 0⟩, ⟨282, 9, 0, 0⟩, ⟨279, 10, 0, 0⟩, ⟨273, 2, -1, 0⟩,
  ⟨276, 2, -1, 0⟩, ⟨381, 1, 0, 0⟩, ⟨271, 2, 0, 0⟩, ⟨273, 3, -1, 0⟩, ⟨277, 1, 0, 2⟩,
  ⟨276, 3, -1, 0⟩, ⟨384, 1, 0, 0⟩, ⟨277, 1, 0, 0⟩, ⟨273, 3, -1, 23⟩, ⟨276, 3, -1, 23⟩,
  ⟨272, 2, 0, 0⟩, ⟨275, 2, 0, 0⟩, ⟨271, 3, 0, 0⟩, ⟨381, 2, 0, 0⟩, ⟨274, 3, 0, 0⟩, ⟨273, 4, -1, 0⟩,
  ⟨276, 4, -1, 0⟩, ⟨384, 2, 0, 0⟩, ⟨273, 4, -1, 23⟩, ⟨276, 4, -1, 23⟩, ⟨272, 3, 0, 0⟩,
  ⟨275, 3, 0, 0⟩, ⟨275, 3, 0, 23⟩, ⟨277, 3, 0, 2⟩, ⟨277, 3, 0, 0⟩, ⟨273, 5, -1, 0⟩,
  ⟨276, 5, -1, 0⟩, ⟨273, 5, -1, 23⟩, ⟨276, 5, -1, 23⟩, ⟨278, 2, 0, 0⟩, ⟨382, 1, 0, 0⟩,
  ⟨383, 1, 0, 0⟩, ⟨278, 3, 0, 0⟩, ⟨382, 2, 0, 0⟩, ⟨383, 2, 0, 0⟩]

/-- The productions by their numbers. -/
def productions : Array (Array Production) := #[
  productions0, productions1, productions2, productions3, productions4, productions5, productions6,
  productions7]

/-- The production of a number. -/
def production (n : Nat) : Production := (productions.getD (n / 64) #[]).getD (n % 64) default

/-- The names of the parts of a phrase that are not called by the names of their own symbols. -/
def partNames : List (List (Option String)) := [
  [],
  [some "identifier"],
  [some "property_identifier"],
  [some "type_identifier"],
  [some "this_type"],
  [some "statement_identifier"],
  [none, some "shorthand_property_identifier"],
  [none, some "shorthand_property_identifier_pattern"],
  [none, some "identifier"],
  [none, some "statement_identifier"],
  [none, some "type_identifier"],
  [none, some "unique symbol"],
  [none, some "type_identifier", some "interface_body"],
  [none, none, some "property_identifier"],
  [some "member_expression", none, some "property_identifier"],
  [some "shorthand_property_identifier_pattern"],
  [none, none, some "type_identifier"],
  [none, some "type_identifier", none, some "interface_body"],
  [none, some "type_identifier", none, none, some "interface_body"],
  [none, none, none, some "type_identifier"],
  [none, none, none, some "property_identifier"],
  [none, none, some "identifier"],
  [none, none, none, some "identifier"],
  [none, some "member_expression"]]

/-- The name that a part has in a phrase, if it is not the one of its own symbol. -/
def partName? (names place : Nat) : Option String := ((partNames.getD names [])[place]?).join

end UiHarness.Syntax.Automaton
