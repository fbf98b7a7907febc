import PluginBundle.CommandLine.Parse

/-!
# What every command line keeps

The words of a command line and the environment reach the arguments in one way only, which is
`Arguments.set`.  So a property of arguments that the empty ones have and that no option takes away
holds of everything that is ever read off a command line: `parse_induction` says so, and each of
the lemmas before it says the same of one step of the reading.

Values that still wait for their option to be looked at are no part of the arguments yet.
-/

namespace PluginBundle

variable {P : Arguments → Prop} {p p' : Parsing} {switch : Switch} {value : String}

/-- Setting an option keeps the property. -/
def KeptBySet (P : Arguments → Prop) : Prop :=
  ∀ a switch value a', P a → Arguments.set a switch value = .ok a' → P a'

namespace Parsing

theorem take_keeps (hset : KeptBySet P) (h : P p.arguments) (htake : p.take switch value = .ok p') :
    P p'.arguments := by
  unfold take at htake
  split at htake
  · cases htake
  · cases hvalue : p.arguments.set switch value with
    | error e =>
        rw [hvalue] at htake
        cases htake
    | ok a =>
        rw [hvalue] at htake
        cases htake
        exact hset p.arguments switch value a h hvalue

theorem settle_keeps (hset : KeptBySet P) (h : P p.arguments) (hsettle : p.settle = .ok p') :
    P p'.arguments := by
  unfold settle at hsettle
  split at hsettle
  · cases hsettle
    exact h
  · cases hsettle
  · rename_i switch value _
    exact take_keeps hset (p := { p with pending := none }) h hsettle

theorem use_keeps (hset : KeptBySet P) (h : P p.arguments) (huse : p.use switch value = .ok p') :
    P p'.arguments := by
  unfold use at huse
  split at huse
  · cases huse
  · rename_i settled hsettled
    exact take_keeps hset (settle_keeps hset h hsettled) huse

theorem useFlag_keeps {isLong : Bool} (hset : KeptBySet P) (h : P p.arguments)
    (huse : p.useFlag switch isLong = .ok p') : P p'.arguments := by
  unfold useFlag at huse
  split at huse
  · cases huse
  · rename_i settled hsettled
    split at huse
    · cases huse
    · exact take_keeps hset (settle_keeps hset h hsettled) huse

theorem await_keeps (hset : KeptBySet P) (h : P p.arguments) (hawait : p.await switch = .ok p') :
    P p'.arguments := by
  unfold await at hawait
  split at hawait
  · cases hawait
  · rename_i settled hsettled
    cases hawait
    have hkept : P settled.arguments := settle_keeps hset h hsettled
    exact hkept

theorem longWord_keeps {word : List Char} (hset : KeptBySet P) (h : P p.arguments)
    (hword : p.longWord word = .ok p') : P p'.arguments := by
  unfold longWord at hword
  dsimp only at hword
  split at hword
  · cases hword
  · split at hword
    · split at hword
      · exact await_keeps hset h hword
      · exact use_keeps hset h hword
    · split at hword
      · exact useFlag_keeps hset h hword
      · cases hword

theorem shortWord_keeps {letters : List Char} (hset : KeptBySet P) (h : P p.arguments)
    (hword : p.shortWord letters = .ok p') : P p'.arguments := by
  induction letters generalizing p with
  | nil =>
      cases hword
      exact h
  | cons letter rest ih =>
      unfold shortWord at hword
      split at hword
      · cases hword
      · split at hword
        · split at hword
          · exact await_keeps hset h hword
          · exact use_keeps hset h hword
          · exact use_keeps hset h hword
        · split at hword
          · cases hword
          · rename_i flagged hflagged
            exact ih (useFlag_keeps hset h hflagged) hword

theorem words_keeps {words : List String} (hset : KeptBySet P) (h : P p.arguments)
    (hwords : p.words words = .ok p') : P p'.arguments := by
  induction words generalizing p with
  | nil =>
      cases hwords
      exact h
  | cons word rest ih =>
      unfold Parsing.words at hwords
      split at hwords
      · split at hwords
        · cases hwords
          exact h
        · cases hwords
      · split at hwords
        · cases hwords
        · rename_i long hlong
          exact ih (longWord_keeps hset h hlong) hwords
      · split at hwords
        · cases hwords
        · rename_i short hshort
          exact ih (shortWord_keeps hset h hshort) hwords
      · -- A word without hyphens is kept back for the option before it.
        split at hwords
        · rename_i switch _
          exact ih (p := { p with pending := some (switch, some word) }) h hwords
        · cases hwords

theorem environment_keeps {lookup : String → Option String} {switches : List Switch}
    (hset : KeptBySet P) (h : P p.arguments)
    (henvironment : p.environment lookup switches = .ok p') : P p'.arguments := by
  induction switches generalizing p with
  | nil =>
      cases henvironment
      exact h
  | cons switch rest ih =>
      unfold environment at henvironment
      split at henvironment
      · exact ih h henvironment
      · split at henvironment
        · exact ih h henvironment
        · split at henvironment
          · cases henvironment
          · rename_i taken htaken
            exact ih (take_keeps hset h htaken) henvironment

end Parsing

/-- **What every command line keeps.**  The empty arguments have the property, and setting an option
keeps it; then all arguments that a command line and an environment give have it. -/
theorem Arguments.parse_induction {words : List String} {lookup : String → Option String}
    {a : Arguments} (hempty : P .empty) (hset : KeptBySet P)
    (hparse : Arguments.parse words lookup = .ok a) : P a := by
  unfold Arguments.parse at hparse
  split at hparse
  · cases hparse
  · rename_i read hread
    split at hparse
    · cases hparse
    · rename_i settled hsettled
      -- The last option's value is looked at before the environment is asked.
      have hwords : P read.arguments := Parsing.words_keeps (p := .initial) hset hempty hread
      have hlast := Parsing.settle_keeps hset hwords hsettled
      cases henvironment : settled.environment lookup Switch.all with
      | error e =>
          rw [henvironment] at hparse
          cases hparse
      | ok whole =>
          rw [henvironment] at hparse
          cases hparse
          exact Parsing.environment_keeps hset hlast henvironment

end PluginBundle
