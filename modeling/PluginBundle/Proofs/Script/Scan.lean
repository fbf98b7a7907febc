import PluginBundle.Proofs.Json.Lines

/-!
# Scanning source text

A scan goes over source text and keeps track of the strings, templates and comments that are open.
It follows the rules of JavaScript for these.  Two forms are left aside: a slash that does not open
a comment is an operator and never the start of a regular expression, and the marks that older
scripts take for comments as HTML does are operators too.

A template may hold code between `${` and `}`, and that code may hold braces of its own, so a scan
also counts the braces that are open in each template.  A string ends on the line where it starts,
unless a backslash stands before the end of the line; a string that does not is never closed.

The laws say which texts a scan passes without a trace: text without slashes and quotes, string
literals, and the text of JSON values.
-/

namespace PluginBundle

/-! ## The scan -/

/-- The marks that a string stands between. -/
inductive QuoteMark where
  | single
  | double
  deriving DecidableEq, Repr

def QuoteMark.char : QuoteMark → Char
  | .single => '\x27'
  | .double => '"'

/-- What the next character of a scan belongs to. -/
inductive ScanMode where
  | code
  /-- Code, behind a slash that opens a comment if a slash or a star follows. -/
  | slash
  | string (quote : QuoteMark)
  /-- In a string, behind a backslash. -/
  | stringEscape (quote : QuoteMark)
  /-- In a string, behind a backslash and a carriage return. -/
  | stringReturn (quote : QuoteMark)
  /-- In a string that its line did not close. -/
  | unclosed
  | template
  /-- In a template, behind a backslash. -/
  | templateEscape
  /-- In a template, behind a dollar sign. -/
  | templateDollar
  | lineComment
  | blockComment
  /-- In a block comment, behind a star. -/
  | blockStar
  deriving DecidableEq, Repr

/-- A scan under way: its mode, and for each template whose code it is in the number of braces that
are open there, the innermost first. -/
structure ScanState where
  mode : ScanMode
  braces : List Nat
  deriving DecidableEq, Repr

namespace ScanState

/-- Where a scan starts: in code, and with nothing open. -/
def start : ScanState := ⟨.code, []⟩

/-- The next character, if it belongs to code. -/
def stepCode (braces : List Nat) (c : Char) : ScanState :=
  if c = '/' then ⟨.slash, braces⟩
  else if c = '"' then ⟨.string .double, braces⟩
  else if c = '\x27' then ⟨.string .single, braces⟩
  else if c = '\x60' then ⟨.template, braces⟩
  else
    match c, braces with
    | '{', count :: outer => ⟨.code, (count + 1) :: outer⟩
    -- The brace that no brace of the code has opened ends the code of the template.
    | '}', 0 :: outer => ⟨.template, outer⟩
    | '}', (count + 1) :: outer => ⟨.code, count :: outer⟩
    | _, _ => ⟨.code, braces⟩

/-- The next character, if it belongs to a string. -/
def stepString (quote : QuoteMark) (braces : List Nat) (c : Char) : ScanState :=
  if c = quote.char then ⟨.code, braces⟩
  else if c = '\\' then ⟨.stringEscape quote, braces⟩
  else if c = '\n' ∨ c = '\r' then ⟨.unclosed, braces⟩
  else ⟨.string quote, braces⟩

/-- The next character, if it belongs to a template. -/
def stepTemplate (braces : List Nat) (c : Char) : ScanState :=
  if c = '\x60' then ⟨.code, braces⟩
  else if c = '\\' then ⟨.templateEscape, braces⟩
  else if c = '$' then ⟨.templateDollar, braces⟩
  else ⟨.template, braces⟩

/-- The characters that end a line. -/
def endsLine (c : Char) : Bool := c == '\n' || c == '\r' || c == '\u2028' || c == '\u2029'

/-- Goes over one character. -/
def step (s : ScanState) (c : Char) : ScanState :=
  match s.mode with
  | .code => stepCode s.braces c
  | .slash =>
      if c = '/' then ⟨.lineComment, s.braces⟩
      else if c = '*' then ⟨.blockComment, s.braces⟩
      else stepCode s.braces c
  | .string quote => stepString quote s.braces c
  | .stringEscape quote =>
      if c = '\r' then ⟨.stringReturn quote, s.braces⟩ else ⟨.string quote, s.braces⟩
  -- A carriage return and the newline behind it are one end of a line.
  | .stringReturn quote =>
      if c = '\n' then ⟨.string quote, s.braces⟩ else stepString quote s.braces c
  | .unclosed => ⟨.unclosed, s.braces⟩
  | .template => stepTemplate s.braces c
  | .templateEscape => ⟨.template, s.braces⟩
  | .templateDollar =>
      if c = '{' then ⟨.code, 0 :: s.braces⟩ else stepTemplate s.braces c
  | .lineComment => if endsLine c then ⟨.code, s.braces⟩ else ⟨.lineComment, s.braces⟩
  | .blockComment =>
      if c = '*' then ⟨.blockStar, s.braces⟩ else ⟨.blockComment, s.braces⟩
  | .blockStar =>
      if c = '/' then ⟨.code, s.braces⟩
      else if c = '*' then ⟨.blockStar, s.braces⟩
      else ⟨.blockComment, s.braces⟩

/-- Goes over a text. -/
def scan (s : ScanState) (cs : List Char) : ScanState := cs.foldl step s

/-- The next character lies outside all strings, templates and comments. -/
def Outside (s : ScanState) : Prop := (s.mode = .code ∨ s.mode = .slash) ∧ s.braces = []

instance (s : ScanState) : Decidable s.Outside := inferInstanceAs (Decidable (_ ∧ _))

@[simp] theorem scan_nil (s : ScanState) : s.scan [] = s := rfl

@[simp] theorem scan_cons (s : ScanState) (c : Char) (cs : List Char) :
    s.scan (c :: cs) = (s.step c).scan cs := rfl

@[simp] theorem scan_append (s : ScanState) (cs ds : List Char) :
    s.scan (cs ++ ds) = (s.scan cs).scan ds :=
  List.foldl_append

/-! ## Text without slashes and quotes -/

/-- The character opens nothing, wherever it stands in code. -/
def IsPlain (c : Char) : Prop := c ≠ '/' ∧ c ≠ '"' ∧ c ≠ '\x27' ∧ c ≠ '\x60'

instance (c : Char) : Decidable (IsPlain c) := inferInstanceAs (Decidable (_ ∧ _))

/-- Text that a scan passes in code. -/
def Plain (cs : List Char) : Prop := ∀ c ∈ cs, IsPlain c

instance (cs : List Char) : Decidable (Plain cs) :=
  decidable_of_iff (cs.all (fun c => IsPlain c) = true) (by simp [Plain])

theorem plain_append {cs ds : List Char} (hcs : Plain cs) (hds : Plain ds) : Plain (cs ++ ds) :=
  List.forall_mem_append.2 ⟨hcs, hds⟩

theorem step_start {c : Char} (h : IsPlain c) : start.step c = start := by
  obtain ⟨hslash, hquote, hapostrophe, hbacktick⟩ := h
  simp [start, step, stepCode, hslash, hquote, hapostrophe, hbacktick]

theorem scan_plain {cs : List Char} (h : Plain cs) : start.scan cs = start := by
  induction cs with
  | nil => rfl
  | cons c rest ih =>
      obtain ⟨hc, hrest⟩ := List.forall_mem_cons.1 h
      rw [scan_cons, step_start hc, ih hrest]

/-! ## String literals -/

/-- Inside a literal in double quotes. -/
def literal : ScanState := ⟨.string .double, []⟩

theorem step_literal {c : Char} (hquote : c ≠ '"') (hbackslash : c ≠ '\\')
    (hvisible : 0x20 ≤ c.toNat) : literal.step c = literal := by
  have hnewline : c ≠ '\n' := by
    rintro rfl
    exact absurd hvisible (by decide)
  have hreturn : c ≠ '\r' := by
    rintro rfl
    exact absurd hvisible (by decide)
  simp [literal, step, stepString, QuoteMark.char, hquote, hbackslash, hnewline, hreturn]

theorem step_literal_hexDigit : ∀ n < 16, literal.step (Json.hexDigit n) = literal := by decide

/-- The escape of a character leaves the literal open. -/
theorem scan_escape (c : Char) : literal.scan (Json.escape c) = literal := by
  unfold Json.escape
  split
  case h_8 hquote hbackslash _ _ _ _ _ =>
    split
    · rename_i hcontrol
      have hhigh := step_literal_hexDigit (c.toNat / 16) (by omega)
      have hlow := step_literal_hexDigit (c.toNat % 16) (by omega)
      have hfront : literal.scan ['\\', 'u', '0', '0'] = literal := by decide
      rw [show ['\\', 'u', '0', '0', Json.hexDigit (c.toNat / 16), Json.hexDigit (c.toNat % 16)] =
        ['\\', 'u', '0', '0'] ++ [Json.hexDigit (c.toNat / 16), Json.hexDigit (c.toNat % 16)]
        from rfl, scan_append, hfront]
      simp [hhigh, hlow]
    · rename_i hvisible
      exact step_literal hquote hbackslash (Nat.le_of_not_lt hvisible)
  -- The seven characters with an escape of their own.
  all_goals decide

theorem scan_flatMap_escape (cs : List Char) :
    literal.scan (cs.flatMap Json.escape) = literal := by
  induction cs with
  | nil => rfl
  | cons c rest ih => rw [List.flatMap_cons, scan_append, scan_escape, ih]

/-- A string literal leaves nothing open, whatever the string holds. -/
theorem scan_quote (s : String) : start.scan (Json.quote s).toList = start := by
  have hopening : start.step '"' = literal := by decide
  have hclosing : literal.step '"' = start := by decide
  simp [Json.quote, Json.quoteChars, hopening, scan_flatMap_escape, hclosing]

/-! ## JSON values -/

theorem plain_of_numeric {cs : List Char} (h : Json.Numeric cs) : Plain cs := by
  intro c hc
  have hchar := h c hc
  refine ⟨?_, ?_, ?_, ?_⟩ <;>
    · rintro rfl
      exact absurd hchar (by decide)

/-- Parts that leave nothing open leave nothing open behind commas. -/
theorem scan_behindCommas {texts : List (List Char)}
    (h : ∀ text ∈ texts, start.scan text = start) :
    start.scan (Json.behindCommas texts) = start := by
  have hcomma : start.step ',' = start := by decide
  induction texts with
  | nil => rfl
  | cons text rest ih =>
      obtain ⟨htext, hrest⟩ := List.forall_mem_cons.1 h
      simp [hcomma, htext, ih hrest]

/-- The text of a value leaves nothing open. -/
theorem scan_value (v : Json.Value) : start.scan v.chars = start := by
  -- Brackets, colons and commas open nothing outside of templates, so only the parts matter.
  induction v using Json.Value.inductionOn with
  | null => decide
  | bool b => cases b <;> decide
  | number n =>
      have hplain := plain_of_numeric (Json.numeric_numberText n)
      simpa [Json.Value.chars, Json.Value.text] using scan_plain hplain
  | string s => simpa [Json.Value.chars, Json.Value.text] using scan_quote s
  | array items ih =>
      have hopening : start.step '[' = start := by decide
      have hclosing : start.step ']' = start := by decide
      rw [Json.chars_array]
      cases items with
      | nil => decide
      | cons v rest =>
          obtain ⟨hfirst, hrest⟩ := List.forall_mem_cons.1 ih
          have hparts : start.scan (Json.behindCommas (rest.map Json.Value.chars)) = start :=
            scan_behindCommas (List.forall_mem_map.2 hrest)
          simp [Json.toList_itemsText_cons, hopening, hfirst, hparts, hclosing]
  | object members ih =>
      have hopening : start.step '{' = start := by decide
      have hclosing : start.step '}' = start := by decide
      have hcolon : start.step ':' = start := by decide
      rw [Json.chars_object]
      have hmember : ∀ p ∈ members, start.scan (Json.memberChars p) = start := by
        intro p hp
        simp [Json.memberChars, scan_quote, hcolon, ih p hp]
      cases members with
      | nil => decide
      | cons p rest =>
          obtain ⟨hfirst, hrest⟩ := List.forall_mem_cons.1 hmember
          have hparts : start.scan (Json.behindCommas (rest.map Json.memberChars)) = start :=
            scan_behindCommas (List.forall_mem_map.2 hrest)
          simp [Json.toList_membersText_cons, hopening, hfirst, hparts, hclosing]

/-! ## Complete fragments -/

/-- A text that leaves nothing open once its last line is ended. -/
def Complete (source : String) : Prop := start.scan (source.toList ++ ['\n']) = start

instance (source : String) : Decidable (Complete source) :=
  inferInstanceAs (Decidable (_ = _))

/-- The last line of the text ends in a comment. -/
def EndsInLineComment (source : String) : Prop := (start.scan source.toList).mode = .lineComment

instance (source : String) : Decidable (EndsInLineComment source) :=
  inferInstanceAs (Decidable (_ = _))

/-- The end of a line leads to code only from code and from a line comment. -/
theorem of_step_newline {s : ScanState} (h : s.step '\n' = start) :
    s.Outside ∨ s = ⟨.lineComment, []⟩ := by
  obtain ⟨mode, braces⟩ := s
  cases mode with
  | string quote => cases quote <;> simp [step, stepString, QuoteMark.char, start] at h
  | code | slash | lineComment => simp_all [step, stepCode, endsLine, start, Outside]
  | _ => simp [step, stepTemplate, start] at h

/-- The end of a complete text is outside everything, or in a comment that the line ends. -/
theorem Complete.outside_iff {source : String} (h : Complete source) :
    (start.scan source.toList).Outside ↔ ¬EndsInLineComment source := by
  rw [Complete, scan_append] at h
  obtain houtside | hcomment := of_step_newline h
  · refine ⟨fun _ hends => ?_, fun _ => houtside⟩
    obtain ⟨hcode | hslash, -⟩ := houtside
    · exact nomatch hcode.symm.trans hends
    · exact nomatch hslash.symm.trans hends
  · have hends : EndsInLineComment source := congrArg ScanState.mode hcomment
    refine ⟨fun houtside => ?_, fun hnot => absurd hends hnot⟩
    rw [hcomment] at houtside
    exact absurd houtside (by decide)

/-- Plain text leaves a line comment only for code. -/
theorem scan_plain_of_lineComment {cs : List Char} (h : Plain cs) :
    scan ⟨.lineComment, []⟩ cs = start ∨ scan ⟨.lineComment, []⟩ cs = ⟨.lineComment, []⟩ := by
  induction cs with
  | nil => exact .inr rfl
  | cons c rest ih =>
      obtain ⟨-, hrest⟩ := List.forall_mem_cons.1 h
      rw [scan_cons]
      cases hends : endsLine c with
      | true =>
          have hstep : step ⟨.lineComment, []⟩ c = start := by simp [step, hends, start]
          exact .inl (by rw [hstep, scan_plain hrest])
      | false =>
          have hstep : step ⟨.lineComment, []⟩ c = ⟨.lineComment, []⟩ := by simp [step, hends]
          rw [hstep]
          exact ih hrest

/-- Behind a complete text, plain text that ends its line leaves nothing open.  It must not start
with a star, which would open a comment behind a slash. -/
theorem Complete.scan_line {source : String} (h : Complete source) {c : Char} {cs : List Char}
    (hc : IsPlain c) (hstar : c ≠ '*') (hcs : Plain cs) :
    (start.scan source.toList).scan (c :: (cs ++ ['\n'])) = start := by
  have hnewline : start.step '\n' = start := by decide
  have hplain : Plain (c :: cs) := List.forall_mem_cons.2 ⟨hc, hcs⟩
  have hrest := scan_plain hcs
  rw [Complete, scan_append] at h
  rw [← List.cons_append, scan_append]
  obtain ⟨hmode, hbraces⟩ | hcomment := of_step_newline h
  · have hstep : (start.scan source.toList).step c = start := by
      have hcode := step_start hc
      generalize start.scan source.toList = s at hmode hbraces
      obtain ⟨mode, braces⟩ := s
      subst hbraces
      -- Behind a slash only a slash or a star would be read otherwise.
      obtain rfl | rfl := hmode
      · exact hcode
      · simpa [start, step, hc.1, hstar] using hcode
    rw [scan_cons _ c, hstep, hrest]
    exact hnewline
  · -- The comment may end within the text, and ends with its line at the latest.
    rw [hcomment]
    obtain hcode | hstill := scan_plain_of_lineComment hplain
    · rw [hcode]
      exact hnewline
    · rw [hstill]
      decide

end ScanState
end PluginBundle
