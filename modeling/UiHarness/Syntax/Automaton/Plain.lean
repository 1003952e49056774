import UiHarness.Syntax.Automaton
import UiHarness.Syntax.Automaton.Plain.Gotos
import UiHarness.Syntax.Automaton.Plain.Rows
import UiHarness.Syntax.Automaton.Plain.Sets
import UiHarness.Syntax.Automaton.Plain.States

/-!
# The automaton for plain source
-/

namespace UiHarness.Syntax.Automaton

namespace Plain

/-- Which tokens may come next. -/
def lexicons : List Lexicon := [
  .ofSymbols [
    0, 1, 2, 4, 7, 10, 11, 12, 20, 25, 26, 27, 39, 44, 45, 46, 50, 51, 54, 55, 56, 57, 58, 59, 60,
    61, 62, 63, 64, 65, 66, 67, 68, 69, 70, 71, 72, 73, 74, 75, 76, 77, 78, 79, 80, 81, 82, 83, 84,
    85, 86, 87, 88, 89, 90, 91, 93, 96, 97, 98, 99, 102, 103, 104, 105, 106, 109, 110, 119, 124,
    152, 153, 162, 163],
  .ofSymbols [
    0, 1, 2, 4, 7, 10, 11, 12, 20, 25, 26, 27, 39, 44, 45, 46, 50, 69, 75, 77, 78, 79, 80, 83, 90,
    93, 96, 97, 98, 99, 103, 104, 109, 110, 119, 124, 163],
  .ofSymbols [
    1, 4, 7, 10, 11, 12, 20, 25, 26, 27, 39, 44, 45, 46, 50, 51, 54, 55, 56, 57, 58, 59, 60, 61,
    62, 63, 64, 65, 66, 67, 68, 69, 70, 71, 72, 73, 74, 75, 76, 77, 78, 79, 80, 81, 82, 83, 84, 85,
    86, 87, 88, 89, 90, 91, 93, 96, 97, 98, 99, 103, 104, 109, 110, 119, 124, 162, 163],
  .ofSymbols [
    1, 4, 10, 11, 20, 25, 27, 44, 45, 46, 69, 75, 77, 78, 79, 80, 83, 93, 96, 97, 98, 99, 103, 104,
    109, 110, 119, 124, 162],
  .ofSymbols [
    1, 4, 7, 10, 11, 12, 20, 25, 26, 27, 39, 44, 45, 46, 50, 51, 54, 55, 56, 57, 58, 59, 60, 61,
    62, 63, 64, 65, 66, 67, 68, 69, 70, 71, 72, 73, 74, 75, 76, 77, 78, 79, 80, 81, 82, 83, 84, 85,
    86, 87, 88, 89, 90, 91, 93, 96, 97, 98, 99, 103, 104, 109, 110, 119, 124],
  .ofSymbols [
    0, 1, 4, 7, 10, 11, 12, 20, 25, 26, 27, 39, 44, 45, 46, 51, 70, 71, 72, 73, 74, 75, 76, 77, 78,
    79, 80, 81, 82, 83, 84, 85, 86, 87, 88, 89, 90, 91, 93, 96, 97, 98, 99, 103, 104, 109, 110,
    119, 124, 163],
  .ofSymbols [
    1, 4, 10, 11, 12, 25, 26, 44, 45, 69, 75, 77, 78, 79, 83, 90, 98, 99, 103, 104, 109, 110, 119,
    124, 162, 163],
  .ofSymbols [
    1, 4, 7, 10, 11, 12, 20, 25, 26, 27, 39, 44, 45, 46, 50, 51, 69, 75, 77, 78, 79, 80, 83, 90,
    93, 96, 97, 98, 99, 103, 104, 109, 110, 119, 124, 163],
  .ofSymbols [
    1, 4, 10, 11, 12, 25, 26, 44, 69, 78, 79, 83, 98, 99, 103, 109, 110, 119, 163],
  .ofSymbols [
    1, 4, 10, 11, 12, 20, 25, 26, 27, 39, 44, 45, 46, 51, 70, 71, 72, 73, 74, 75, 76, 77, 78, 79,
    80, 81, 82, 83, 84, 85, 86, 87, 88, 89, 90, 91, 96, 97, 103, 104, 108],
  .ofSymbols [
    39, 102, 103, 104, 105, 152, 153, 154],
  .ofSymbols [
    98, 100, 102, 103],
  .ofSymbols [
    99, 101, 102, 103],
  .ofSymbols [
    103, 107],
  .ofSymbols [
    103, 106]]

/-- Which tokens that depend on what stands around them may come next. -/
def layouts : List Expected := [
  {},
  {lineEnd := true, template := true, question := true, comment := true, disjunction := true,
    escape := true, markupText := true, signatureEnd := true},
  {comment := true},
  {question := true, comment := true, disjunction := true},
  {lineEnd := true, question := true, comment := true, disjunction := true},
  {lineEnd := true, comment := true},
  {lineEnd := true, comment := true, signatureEnd := true},
  {template := true, comment := true, escape := true},
  {template := true, comment := true},
  {comment := true, escape := true},
  {comment := true, expression := true}]

end Plain

/-- The automaton for plain source. -/
def plain : Automaton where
  sets := Plain.sets
  rows := Plain.rows
  gotos := Plain.gotos
  states := Plain.states
  lexicons := Plain.lexicons
  layouts := Plain.layouts

end UiHarness.Syntax.Automaton
