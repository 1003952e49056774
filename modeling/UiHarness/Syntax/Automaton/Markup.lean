import UiHarness.Syntax.Automaton
import UiHarness.Syntax.Automaton.Markup.Gotos
import UiHarness.Syntax.Automaton.Markup.Rows
import UiHarness.Syntax.Automaton.Markup.Sets
import UiHarness.Syntax.Automaton.Markup.States

/-!
# The automaton for source with markup
-/

namespace UiHarness.Syntax.Automaton

namespace Markup

/-- Which tokens may come next. -/
def lexicons : List Lexicon := [
  .ofSymbols [
    0, 1, 2, 4, 7, 10, 11, 12, 20, 25, 26, 27, 39, 44, 45, 46, 50, 51, 54, 55, 56, 57, 58, 59, 60,
    61, 62, 63, 64, 65, 66, 67, 68, 69, 70, 71, 72, 73, 74, 75, 76, 77, 78, 79, 80, 81, 82, 83, 84,
    85, 86, 87, 88, 89, 90, 91, 93, 96, 97, 98, 99, 102, 103, 104, 105, 106, 109, 110, 119, 124,
    139, 152, 153, 162, 163],
  .ofSymbols [
    0, 1, 2, 4, 7, 10, 11, 12, 20, 25, 26, 27, 39, 44, 45, 46, 50, 69, 75, 77, 78, 79, 80, 83, 90,
    93, 96, 97, 98, 99, 103, 104, 109, 110, 119, 124, 163],
  .ofSymbols [
    1, 4, 7, 10, 11, 12, 20, 25, 26, 27, 39, 44, 45, 46, 50, 51, 54, 55, 56, 57, 58, 59, 60, 61,
    62, 63, 64, 65, 66, 67, 68, 69, 70, 71, 72, 73, 74, 75, 76, 77, 78, 79, 80, 81, 82, 83, 84, 85,
    86, 87, 88, 89, 90, 91, 93, 96, 97, 98, 99, 103, 104, 109, 110, 119, 124, 162, 163],
  .ofSymbols [
    1, 4, 10, 11, 20, 25, 27, 44, 45, 46, 69, 75, 77, 78, 79, 80, 83, 93, 96, 97, 98, 99, 103, 104,
    109, 110, 119, 124, 162],
  .ofSymbols [
    1, 4, 7, 10, 11, 12, 20, 25, 26, 27, 39, 44, 45, 46, 50, 51, 54, 55, 56, 57, 58, 59, 60, 61,
    62, 63, 64, 65, 66, 67, 68, 69, 70, 71, 72, 73, 74, 75, 76, 77, 78, 79, 80, 81, 82, 83, 84, 85,
    86, 87, 88, 89, 90, 91, 93, 96, 97, 98, 99, 103, 104, 109, 110, 119, 124],
  .ofSymbols [
    0, 1, 4, 7, 10, 11, 12, 20, 25, 26, 27, 39, 44, 45, 46, 51, 70, 71, 72, 73, 74, 75, 76, 77, 78,
    79, 80, 81, 82, 83, 84, 85, 86, 87, 88, 89, 90, 91, 93, 96, 97, 98, 99, 103, 104, 109, 110,
    119, 124, 163],
  .ofSymbols [
    1, 4, 10, 11, 12, 25, 26, 44, 45, 69, 75, 77, 78, 79, 83, 90, 98, 99, 103, 104, 109, 110, 119,
    124, 162, 163],
  .ofSymbols [
    1, 4, 10, 25, 44, 75, 77, 78, 79, 83, 90, 98, 99, 103, 104, 109, 124, 138, 140, 162],
  .ofSymbols [
    1, 4, 7, 10, 11, 12, 20, 25, 26, 27, 39, 44, 45, 46, 50, 51, 69, 75, 77, 78, 79, 80, 83, 90,
    93, 96, 97, 98, 99, 103, 104, 109, 110, 119, 124, 163],
  .ofSymbols [
    1, 4, 10, 11, 12, 25, 26, 44, 69, 78, 79, 83, 98, 99, 103, 109, 110, 119, 163],
  .ofSymbols [
    1, 4, 10, 11, 12, 20, 25, 26, 27, 39, 44, 45, 46, 51, 70, 71, 72, 73, 74, 75, 76, 77, 78, 79,
    80, 81, 82, 83, 84, 85, 86, 87, 88, 89, 90, 91, 96, 97, 103, 104, 108],
  .ofSymbols [
    1, 7, 10, 11, 25, 39, 44, 46, 75, 77, 83, 90, 103, 138, 140, 152, 153, 154],
  .ofSymbols [
    10, 83, 102, 103, 104, 105, 137, 139],
  .ofSymbols [
    98, 100, 102, 103],
  .ofSymbols [
    99, 101, 102, 103],
  .ofSymbols [
    98, 103, 137, 141],
  .ofSymbols [
    99, 103, 137, 142],
  .ofSymbols [
    103, 107],
  .ofSymbols [
    103, 106]]

/-- Which tokens that depend on what stands around them may come next. -/
def layouts : List Expected := [
  {},
  {lineEnd := true, template := true, question := true, comment := true, disjunction := true,
    escape := true, markupText := true, signatureEnd := true},
  {comment := true},
  {question := true, comment := true, disjunction := true},
  {lineEnd := true, question := true, comment := true, disjunction := true},
  {lineEnd := true, comment := true},
  {lineEnd := true, comment := true, signatureEnd := true},
  {comment := true, markupText := true},
  {template := true, comment := true, escape := true},
  {template := true, comment := true},
  {comment := true, escape := true},
  {comment := true, expression := true}]

end Markup

/-- The automaton for source with markup. -/
def markup : Automaton where
  sets := Markup.sets
  rows := Markup.rows
  gotos := Markup.gotos
  states := Markup.states
  lexicons := Markup.lexicons
  layouts := Markup.layouts

end UiHarness.Syntax.Automaton
