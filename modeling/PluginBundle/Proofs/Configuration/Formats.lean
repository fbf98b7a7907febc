import PluginBundle.Configuration.Loading
import PluginBundle.Proofs.Configuration.Values

/-!
# Texts in two formats

The extension of a configuration file says how its text is read.  No text is read as a configuration
in both formats: a JSON text of a configuration begins, behind blanks, with a brace, and no TOML
document does.  So whatever configuration a text spells, it spells in one format only, and two files
with the same contents never hold two configurations (`configuration_of_text_unique`).
-/

namespace PluginBundle

open Json (Value)

/-! ## What a JSON object begins with -/

namespace Json

/-- An object begins with a brace. -/
theorem skipSpace_of_readValue_object {depth : Nat} {cs rest : List Char}
    {members : List (String × Value)} (h : readValue depth cs = .ok (.object members, rest)) :
    ∃ r, skipSpace cs = '{' :: r := by
  -- Every branch but one reads a value of another kind, or none.
  unfold readValue at h
  split at h
  case h_8 r hbrace => exact ⟨r, hbrace⟩
  case h_7 | h_9 => split at h <;> simp [map_eq_ok_iff, faultAt] at h
  all_goals simp [map_eq_ok_iff, faultAt] at h

theorem skipSpace_of_parse_object {text : String} {members : List (String × Value)}
    (h : parse text = .ok (.object members)) : ∃ r, skipSpace text.toList = '{' :: r := by
  unfold parse read at h
  cases hread : readValue depthLimit text.toList with
  | error f =>
      rw [hread] at h
      cases h
  | ok p =>
      obtain ⟨v, rest⟩ := p
      rw [hread] at h
      dsimp only at h
      split at h
      · cases h
        exact skipSpace_of_readValue_object hread
      · cases h

end Json

/-! ## What no TOML document begins with -/

namespace Toml

/-- Characters with which no line of a document begins. -/
def NoStart (c : Char) : Prop := c = '{' ∨ c = '\r'

/-- The blanks of TOML are blanks in JSON too. -/
theorem skipSpace_skipSpace (cs : List Char) :
    Json.skipSpace (skipSpace cs) = Json.skipSpace cs := by
  induction cs with
  | nil => rfl
  | cons c cs ih =>
      by_cases hblank : isSpace c = true
      · have hjson : Json.isSpace c = true := by
          obtain rfl | rfl : c = ' ' ∨ c = '\t' := by simpa [isSpace] using hblank
          · rfl
          · rfl
        simpa [skipSpace, Json.skipSpace, hblank, hjson] using ih
      · simp [skipSpace, hblank]

/-- What is left behind the blanks of TOML, before a brace: the brace, or the end of a line. -/
theorem skipSpace_of_brace {cs r : List Char} (h : Json.skipSpace cs = '{' :: r) :
    skipSpace cs = '{' :: r ∨
      ∃ c rest, (c = '\n' ∨ c = '\r') ∧ skipSpace cs = c :: rest ∧
        Json.skipSpace rest = '{' :: r := by
  have hrest : Json.skipSpace (skipSpace cs) = '{' :: r := (skipSpace_skipSpace cs).trans h
  cases hstart : skipSpace cs with
  | nil => simp [hstart, Json.skipSpace] at hrest
  | cons c rest =>
      rw [hstart] at hrest
      by_cases hblank : Json.isSpace c = true
      · refine .inr ⟨c, rest, ?_, rfl, by simpa [Json.skipSpace, hblank] using hrest⟩
        have hdrop : cs.dropWhile isSpace = c :: rest := hstart
        have hkept : isSpace c = false := by
          have hhead := List.head_dropWhile_not (l := cs) isSpace (by simp [hdrop])
          simpa [hdrop] using hhead
        simp only [isSpace, Bool.or_eq_false_iff, beq_eq_false_iff_ne] at hkept
        simpa [Json.isSpace, hkept] using hblank
      · exact .inl (by simpa [Json.skipSpace, hblank] using hrest)

/-- Behind the blanks and line ends of a document comes the brace, or a blank that is one in JSON
only. -/
theorem skipLines_of_brace {fuel : Nat} {cs r : List Char} (hfuel : cs.length ≤ fuel)
    (h : Json.skipSpace cs = '{' :: r) :
    ∃ c rest, skipLines fuel cs = c :: rest ∧ NoStart c := by
  induction fuel generalizing cs with
  | zero =>
      obtain rfl : cs = [] := List.eq_nil_of_length_eq_zero (by omega)
      cases h
  | succ fuel ih =>
      have hlength : (skipSpace cs).length ≤ fuel + 1 :=
        Nat.le_trans (List.dropWhile_sublist _).length_le hfuel
      obtain hbrace | ⟨c, rest, rfl | rfl, hline, hrest⟩ := skipSpace_of_brace h
      · exact ⟨'{', r, by simp [skipLines, hbrace, skipComment], .inl rfl⟩
      · rw [hline, List.length_cons] at hlength
        simpa [skipLines, hline, skipComment] using ih (by omega) hrest
      · rw [hline, List.length_cons] at hlength
        by_cases hend : ∃ next, rest = '\n' :: next
        · obtain ⟨next, rfl⟩ := hend
          have hnext : Json.skipSpace next = '{' :: r := by
            simpa [Json.skipSpace, Json.isSpace] using hrest
          rw [List.length_cons] at hlength
          simpa [skipLines, hline, skipComment] using ih (by omega) hnext
        · refine ⟨'\r', rest, ?_, .inr rfl⟩
          rw [skipLines, hline]
          simp only [skipComment]
          split
          · rename_i heq
            cases heq
          · rename_i next heq
            cases heq
            exact absurd ⟨next, rfl⟩ hend
          · rfl

variable {c : Char}

/-- No key begins with such a character. -/
theorem readKeyPart_eq_none (hc : NoStart c) (rest : List Char) :
    readKeyPart (c :: rest) = none := by
  obtain rfl | rfl := hc <;> simp [readKeyPart, isBareChar]

theorem readKeyParts_eq_none (hc : NoStart c) (rest : List Char) (most : Nat) :
    readKeyParts most (c :: rest) = none := by
  cases most with
  | zero => rfl
  | succ most =>
      have hspace : skipSpace (c :: rest) = c :: rest := by obtain rfl | rfl := hc <;> rfl
      rw [readKeyParts, hspace, readKeyPart_eq_none hc]
      rfl

theorem readPair_eq_none (hc : NoStart c) (rest : List Char) (p : Progress) :
    readPair (c :: rest) p = none := by
  rw [readPair, readKey, readKeyParts_eq_none hc]
  rfl

/-- The first line of a text that begins with a brace is not read. -/
theorem readLinesOf_eq_none {cs r : List Char} (h : Json.skipSpace cs = '{' :: r) (fuel : Nat)
    (p : Progress) : readLinesOf (fuel + 1) p cs = none := by
  obtain ⟨c, rest, hgap, hstart⟩ := skipLines_of_brace (Nat.le_refl cs.length) h
  have hheader : c ≠ '[' := by obtain rfl | rfl := hstart <;> decide
  rw [readLinesOf, skipGap, hgap]
  simp [hheader, readPair_eq_none hstart]

/-- **A text that begins with a brace is no document.** -/
theorem read?_eq_none_of_brace {text : String} {r : List Char}
    (h : Json.skipSpace text.toList = '{' :: r) : read? text = none := by
  cases hchars : text.toList with
  | nil => simp [hchars, Json.skipSpace] at h
  | cons c cs =>
      rw [hchars] at h
      -- The mark of the byte order is no blank in JSON.
      have hmark : c ≠ Char.ofNat 0xFEFF := by
        rintro rfl
        have hblank : Json.isSpace (Char.ofNat 0xFEFF) = false := by decide
        simp [Json.skipSpace, hblank] at h
      simp [read?, hchars, hmark, readLinesOf_eq_none h]

end Toml

/-! ## The configuration of a text -/

namespace Configuration

/-- Only an object is accepted. -/
theorem exists_members_of_fromValue {v : Value} {c : Configuration} (h : fromValue v = .ok c) :
    ∃ members, v = .object members := by
  cases v with
  | object members => exact ⟨members, rfl⟩
  | _ => cases ((fromValue_eq_ok_iff _ c).1 h).1

/-- A text spells an accepted configuration in a format. -/
def Spelled (format : ConfigurationFormat) (text : String) (c : Configuration) : Prop :=
  ∃ v, format.parse text = .ok v ∧ fromValue v = .ok c

theorem not_spelled_in_both {text : String} {c c' : Configuration} (h : Spelled .json text c) :
    ¬Spelled .toml text c' := by
  rintro ⟨v', hparse', -⟩
  obtain ⟨v, hparse, haccepted⟩ := h
  obtain ⟨members, rfl⟩ := exists_members_of_fromValue haccepted
  obtain ⟨r, hbrace⟩ := Json.skipSpace_of_parse_object hparse
  simp [ConfigurationFormat.parse, Toml.read?_eq_none_of_brace hbrace] at hparse'

/-- **A text spells at most one configuration**, and in one format only. -/
theorem configuration_of_text_unique {format format' : ConfigurationFormat} {text : String}
    {c c' : Configuration} (h : Spelled format text c) (h' : Spelled format' text c') :
    format' = format ∧ c' = c := by
  have hformat : format' = format := by
    cases format with
    | json =>
        cases format' with
        | json => rfl
        | toml => exact absurd h' (not_spelled_in_both h)
    | toml =>
        cases format' with
        | json => exact absurd h (not_spelled_in_both h')
        | toml => rfl
  subst hformat
  obtain ⟨v, hparse, haccepted⟩ := h
  obtain ⟨v', hparse', haccepted'⟩ := h'
  obtain rfl : v' = v := by simpa [hparse] using hparse'.symm
  exact ⟨rfl, by simpa [haccepted] using haccepted'.symm⟩

/-- A file is loaded if its name tells the format in which its text spells a configuration. -/
theorem load_eq_ok_iff {disk : Disk} {cwd : Place} {p : Path} {c : Configuration} :
    (load disk cwd p).1 = .ok c ↔
      ∃ text format, disk.readText cwd p = .ok text ∧
        ConfigurationFormat.ofPath? p = some format ∧ Spelled format text c := by
  unfold load readValue Spelled
  cases disk.readText cwd p with
  | error cause => simp
  | ok text =>
      cases ConfigurationFormat.ofPath? p with
      | none => simp
      | some format => cases hparse : format.parse text <;> simp [hparse]

end Configuration

end PluginBundle
