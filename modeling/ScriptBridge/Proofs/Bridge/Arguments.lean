import ScriptBridge.Proofs.Bridge.Protocol
import ScriptBridge.Proofs.Bridge.Settings
import ScriptBridge.Proofs.Text.Words

/-! # The arguments of a command

A command is given its arguments as one line, with spaces between them, and its interpreter is
started with the words of that line. The line does not tell where an argument ends: an argument with
blanks in it arrives as several words, and an argument of nothing but blanks does not arrive. Any
other arrives as it is, as long as there is room; the name of the program takes up a part of it.
-/

namespace ScriptBridge

namespace Command

variable {program line : String} {limit : Nat}

/-- Joining the arguments and taking the line apart gives the words of one after the other. -/
theorem arguments_intercalate (program : String) (given : List String) (limit : Nat) :
    arguments program (" ".intercalate given) limit =
      program :: (given.flatMap Text.pieces).take (limit - 1) := by
  rw [arguments, Text.words_intercalate]

theorem length_arguments_le (room : 0 < limit) :
    (arguments program line limit).length ≤ limit := by
  have taken := List.length_take_le (limit - 1) (Text.words line)
  simp only [arguments, List.length_cons]
  omega

theorem isWord_of_mem_tail_arguments {word : String}
    (member : word ∈ (arguments program line limit).tail) : Text.IsWord word :=
  Text.isWord_of_mem_words (List.mem_of_mem_take member)

theorem getElem?_arguments_intercalate {before behind : List String} {word : String}
    (whole : Text.IsWord word) (room : (before.flatMap Text.pieces).length + 1 < limit) :
    (arguments program (" ".intercalate (before ++ word :: behind)) limit)[
      (before.flatMap Text.pieces).length + 1]? = some word := by
  have inside : (before.flatMap Text.pieces).length < limit - 1 := by omega
  rw [arguments_intercalate, List.getElem?_cons_succ, List.getElem?_take_of_lt inside,
    List.flatMap_append, List.flatMap_cons, Text.pieces_of_isWord whole,
    List.getElem?_append_right (Nat.le_refl _), Nat.sub_self]
  rfl

theorem arguments_intercalate_of_words (program : String) {given : List String} (limit : Nat)
    (whole : ∀ argument ∈ given, Text.IsWord argument) :
    arguments program (" ".intercalate given) limit = program :: given.take (limit - 1) := by
  rw [arguments_intercalate, Text.flatMap_pieces_of_words whole]

end Command

def Call.startup? : Call → Option StartupOptions
  | .startup options => some options
  | _ => none

/-- What an interpreter was started with, whether it started or not; the last start comes first. -/
def startups (trace : List Event) : List StartupOptions :=
  trace.filterMap (·.call.startup?)

variable {σ : Type} [Interpreter σ]

theorem Traced.startups_startup (options : StartupOptions) (traced : Traced σ) :
    startups (Interpreter.startup options traced).2.trace = options :: startups traced.trace := rfl

namespace Bridge

variable (bridge : Bridge (Traced σ)) (host : Surroundings)

theorem startups_takeDown :
    startups bridge.takeDown.interpreter.trace = startups bridge.interpreter.trace := by
  simp only [takeDown]
  split <;> rfl

theorem startups_endCommand :
    startups bridge.endCommand.interpreter.trace = startups bridge.interpreter.trace := rfl

theorem startups_startCommand (traced : Traced σ) :
    startups (startCommand traced).2.trace = startups traced.trace := by
  have kept : startups (Interpreter.requestStartup traced).2.trace = startups traced.trace := rfl
  simp only [startCommand]
  split
  all_goals
    next called =>
      rw [called] at kept
      exact kept

theorem startups_executeCommand (publicDir : String) :
    startups (bridge.executeCommand host publicDir).2.interpreter.trace =
      startups bridge.interpreter.trace := rfl

/-- A command starts the interpreter once, whatever comes of it. -/
theorem startups_runCommand (line publicDir : String) :
    startups (bridge.runCommand host line publicDir).2.interpreter.trace =
      bridge.commandOptions line :: startups bridge.interpreter.trace := by
  let ready := bridge.takeDown.prepareCommand host publicDir
  have options : ready.commandOptions line = bridge.commandOptions line := by
    have kept := bridge.settings_takeDown
    simp only [settings, Prod.mk.injEq] at kept
    obtain ⟨-, kept, -⟩ := kept
    simp only [commandOptions, ready, prepareCommand, kept]
  have begun : startups (Interpreter.startup (ready.commandOptions line) ready.interpreter).2.trace =
      bridge.commandOptions line :: startups bridge.interpreter.trace := by
    rw [Traced.startups_startup, options]
    exact congrArg _ bridge.startups_takeDown
  simp only [runCommand]
  split
  · next called =>
      rw [called] at begun
      exact begun
  · next interpreter called =>
      rw [called] at begun
      have made := startups_startCommand interpreter
      split
      · next called =>
          rw [called] at made
          exact (startups_endCommand _).trans (made.trans begun)
      · next called =>
          rw [called] at made
          exact (startups_executeCommand _ host publicDir).trans (made.trans begun)

/-- A command starts its interpreter with the name of the program and the words of the arguments, one
    argument after the other, as many as there is room for. They are words, and an argument that is
    one stands where it is due. -/
theorem runCommand_passes_words (given : List String) (publicDir : String) :
    ∃ argv,
      startups (bridge.runCommand host (" ".intercalate given) publicDir).2.interpreter.trace =
          ⟨argv, bridge.command.ini⟩ :: startups bridge.interpreter.trace ∧
        argv = bridge.command.programName ::
          (given.flatMap Text.pieces).take (bridge.command.maxArgs.toNat - 1) ∧
        (0 < bridge.command.maxArgs.toNat → argv.length ≤ bridge.command.maxArgs.toNat) ∧
        (∀ word ∈ argv.tail, Text.IsWord word) ∧
        (∀ before word behind, given = before ++ word :: behind → Text.IsWord word →
          (before.flatMap Text.pieces).length + 1 < bridge.command.maxArgs.toNat →
          argv[(before.flatMap Text.pieces).length + 1]? = some word) ∧
        ((∀ argument ∈ given, Text.IsWord argument) →
          argv = bridge.command.programName ::
            given.take (bridge.command.maxArgs.toNat - 1)) := by
  refine ⟨(bridge.commandOptions (" ".intercalate given)).argv,
    bridge.startups_runCommand host _ publicDir, Command.arguments_intercalate _ _ _,
    Command.length_arguments_le, fun _ => Command.isWord_of_mem_tail_arguments, ?_,
    Command.arguments_intercalate_of_words _ _⟩
  rintro before word behind rfl whole room
  exact Command.getElem?_arguments_intercalate whole room

/-- An argument of two words, one of none, and two of one word each, with room for three words. Not
    all of the blanks are spaces. -/
theorem runCommand_passes_words_of_odd_arguments :
    let config := { CommandConfig.standard with maxArgs := 4 }
    let bridge : Bridge (Traced Recorder) :=
      .new { Config.standard with command := config }
        ⟨.new [] ⟨false, false, false⟩, []⟩ (.recording [])
    let given := ["a\u3000 b", "\t", "--x=1", "\u00A0c"]
    startups (bridge.runCommand ⟨.empty, [], 0⟩ (" ".intercalate given) "/app").2.interpreter.trace =
        [⟨[config.programName, "a", "b", "--x=1"], config.ini⟩] ∧
      [config.programName, "a", "b", "--x=1"].length ≤ 4 ∧
      [config.programName, "a", "b", "--x=1"][3]? = some "--x=1" := by
  intro config bridge given
  have pieces : given.flatMap Text.pieces = ["a", "b", "--x=1", "c"] := by decide +kernel
  have earlier : ["a\u3000 b", "\t"].flatMap Text.pieces = ["a", "b"] := by decide +kernel
  obtain ⟨argv, passed, words, few, -, due, -⟩ :=
    bridge.runCommand_passes_words ⟨.empty, [], 0⟩ given "/app"
  rw [pieces] at words
  subst words
  have third := due ["a\u3000 b", "\t"] "--x=1" ["\u00A0c"] rfl (by decide +kernel)
  rw [earlier] at third
  exact ⟨passed, few (by decide), third (by decide)⟩

end Bridge

end ScriptBridge
