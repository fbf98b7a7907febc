import PluginBundle.Shell.Arithmetic

/-!
# Tests

The conditions of `test`: on texts, numbers and files, alone or joined. A test is read from the
front; how a word is taken hangs on the words behind it.
-/

namespace PluginBundle.Shell

/-- What is wrong with a test. -/
inductive TestFault where
  | operandWanted (operator : List Char)
  | closeWanted
  | unexpected (word : List Char)
  /-- More words than any test takes. -/
  | tooMany (word : List Char)
  | wordWanted
  | illegalNumber (word : List Char)
  deriving DecidableEq, Repr

def TestFault.message (plain : Bool) : TestFault → List Char
  | .operandWanted operator =>
      operator ++ ofText (if plain then ": argument expected" else ": unary operator expected")
  | .tooMany _ => ofText "too many arguments"
  | .wordWanted => ofText "argument expected"
  | .closeWanted => ofText (if plain then "closing paren expected" else "\x60)' expected")
  | .unexpected word =>
      word ++ ofText (if plain then ": unexpected operator" else ": binary operator expected")
  | .illegalNumber word =>
      if plain then ofText "Illegal number: " ++ word
      else word ++ ofText ": integer expression expected"

/-- The kinds of operators in a test. -/
inductive TestSign where
  | unary
  | binary
  | negation
  | joining
  | opening
  | closing
  deriving DecidableEq, Repr

def testSign? (plain : Bool) (word : List Char) : Option TestSign :=
  let unary := ["-r", "-w", "-x", "-e", "-f", "-d", "-c", "-b", "-p", "-u", "-g", "-k", "-s", "-t",
    "-z", "-n", "-h", "-O", "-G", "-L", "-S"]
  let binary := ["=", "!=", "<", ">", "-eq", "-ne", "-ge", "-gt", "-le", "-lt", "-nt", "-ot", "-ef"]
  let text := String.ofList word
  if unary.contains text || (!plain && ["-a", "-o", "-v", "-N", "-R"].contains text) then
    some .unary
  else if binary.contains text || (!plain && text == "==") then some .binary
  else if text == "!" then some .negation
  else if text == "-a" || text == "-o" then some .joining
  else if text == "(" then some .opening
  else if text == ")" then some .closing
  else none

/-- The operator that a word is taken for, given the words behind it. -/
def signAt? : List (List Char) → Option TestSign
  | [] => none
  | word :: rest =>
      match testSign? true word with
      | some .unary =>
          -- Without an operand, or in front of another operator, the word means itself.
          match rest with
          | [] => none
          | [_] => some .unary
          | next :: _ =>
              if testSign? true next = some .binary then none else some .unary
      | some .opening => if rest.isEmpty then none else some .opening
      | sign => sign

/-- The place of the file that swallows everything. -/
def sinkPlace : Place := ["dev", "null"]

/-- A variable or an element of one has a value. -/
def isSet (s : State) (word : List Char) : Bool :=
  let name := word.takeWhile isNamePart
  let v := (s.binding? name).getD .missing
  match word.drop name.length with
  | '[' :: r =>
      let index := r.takeWhile (· != ']')
      if index = ['@'] || index = ['*'] then !v.items.isEmpty
      else if v.names = .texts then (v.items.lookup (.text index)).isSome
      else
        match number? index with
        | some n => (v.items.lookup (.number (v.place n))).isSome
        | none => false
  | _ => v.value?.isSome

/-- A test of one word. -/
def testUnary (s : State) (operator operand : List Char) : Bool :=
  let disk := s.world.disk
  let path := State.path operand
  let place? := (disk.resolve s.cwd path).toOption
  let isSink := place?.any fun p => p.1 == sinkPlace
  match String.ofList operator with
  | "-n" => !operand.isEmpty
  | "-z" => operand.isEmpty
  | "-f" => disk.isFile s.cwd path && !isSink
  | "-d" => disk.isDirectory s.cwd path
  | "-c" => isSink
  | "-e" => place?.isSome
  | "-a" => place?.isSome
  | "-r" => place?.isSome
  | "-w" => place?.isSome
  | "-O" => place?.isSome
  | "-G" => place?.isSome
  | "-x" => disk.isExecutableFile s.cwd path || disk.isDirectory s.cwd path
  | "-v" => isSet s operand
  | "-s" =>
      match disk.read s.cwd path with
      | .ok contents => !contents.isEmpty
      | .error _ => disk.isDirectory s.cwd path
  | _ => false

/-- A whole number of a test. -/
def testNumber (word : List Char) : Except TestFault Int :=
  let digits :=
    match skipSpace word with
    | '-' :: r => r
    | '+' :: r => r
    | r => r
  let body := digits.takeWhile Char.isDigit
  let negative := (skipSpace word).head? == some '-'
  let rest := digits.drop body.length
  if (body.isEmpty && !word.isEmpty) || !(skipSpace rest).isEmpty then .error (.illegalNumber word)
  else
    let n : Int := Reader.numberIn 10 body
    .ok (clamped (if negative then -n else n))

/-- A test of two words. -/
def testBinary (s : State) (left operator right : List Char) : Except TestFault Bool := do
  let compare (holds : Int → Int → Bool) : Except TestFault Bool := do
    return holds (← testNumber left) (← testNumber right)
  match String.ofList operator with
  | "=" => return left == right
  | "==" => return left == right
  | "!=" => return left != right
  | "<" => return lessBytes left right && left != right
  | ">" => return lessBytes right left && left != right
  | "-eq" => compare (· == ·)
  | "-ne" => compare (· != ·)
  | "-lt" => compare (· < ·)
  | "-le" => compare (· ≤ ·)
  | "-gt" => compare (· > ·)
  | "-ge" => compare (· ≥ ·)
  | "-ef" =>
      let place (w : List Char) :=
        ((s.world.disk.resolve s.cwd (State.path w)).toOption).map (·.1)
      return (place left).isSome && place left == place right
  | _ => return false
where
  lessBytes : List Char → List Char → Bool
    | [], _ => true
    | _ :: _, [] => false
    | a :: as, b :: bs => a < b || (a == b && lessBytes as bs)

/-- A reader of tests: the result, and the words from the last one that was used on. -/
abbrev TestReader := List (List Char) → Except TestFault (Bool × List (List Char))

/-- A test that nothing joins to another one. -/
def testPrimary (s : State) (again : TestReader) : TestReader := fun words =>
  match signAt? words, words with
  | _, [] => .ok (false, [])
  | some .opening, _ :: inside =>
      if signAt? inside = some .closing then .ok (false, inside)
      else do
        let (result, rest) ← again inside
        let rest := rest.drop 1
        if signAt? rest = some .closing then return (result, rest) else throw .closeWanted
  | some .unary, operator :: rest =>
      match rest with
      | [] => .error (.operandWanted operator)
      | operand :: _ => .ok (testUnary s operator operand, rest)
  | _, word :: rest =>
      if signAt? rest = some .binary then
        match rest with
        | [operator] => .error (.operandWanted operator)
        | operator :: right :: more => do
            return (← testBinary s word operator right, right :: more)
        | [] => .ok (!word.isEmpty, words)
      else .ok (!word.isEmpty, words)

/-- A test with negations in front. -/
def testNegated (s : State) (again : TestReader) : Nat → TestReader
  | 0, words => .ok (false, words)
  | fuel + 1, words =>
      if signAt? words = some .negation then do
        let next := words.drop 1
        let (result, rest) ←
          if next.isEmpty then .ok (false, words) else testNegated s again fuel next
        return (!result, rest)
      else testPrimary s again words

/-- Tests joined by one sign; `all` says how their results are. -/
def testJoined (sign : List Char) (all : Bool) (one : TestReader) :
    Nat → Bool → TestReader
  | 0, sofar, words => .ok (sofar, words)
  | fuel + 1, sofar, words => do
      let (result, rest) ← one words
      let sofar := if all then sofar && result else sofar || result
      if rest[1]? == some sign && signAt? (rest.drop 1) = some .joining then
        testJoined sign all one fuel sofar (rest.drop 2)
      else return (sofar, rest)

/-- A test; `-a` binds more tightly than `-o`. -/
def testAny (s : State) : Nat → TestReader
  | 0, words => .ok (false, words)
  | depth + 1, words =>
      let rounds := words.length + 1
      let one := testNegated s (testAny s depth) rounds
      let both := testJoined ['-', 'a'] true one rounds true
      testJoined ['-', 'o'] false both rounds false words

/-! ## The larger dialect -/

namespace ExtendedTest

def isUnary (word : List Char) : Bool := testSign? false word == some .unary

def isBinary (word : List Char) : Bool := testSign? false word == some .binary

def two (s : State) (a b : List Char) : Except TestFault Bool :=
  if a = ['!'] then .ok b.isEmpty
  else if isUnary a then .ok (testUnary s a b)
  else .error (.operandWanted a)

def three (s : State) (a b c : List Char) : Except TestFault Bool := do
  if isBinary b then testBinary s a b c
  else if b = ['-', 'a'] then return !a.isEmpty && !c.isEmpty
  else if b = ['-', 'o'] then return !a.isEmpty || !c.isEmpty
  else if a = ['!'] then return !(← two s b c)
  else if a = ['('] && c = [')'] then return !b.isEmpty
  else throw (.unexpected b)

/-- A test at the front that nothing joins to another one. -/
def term (s : State) (again : TestReader) : Nat → TestReader
  | 0, _ => .error .wordWanted
  | fuel + 1, words => do
      match words with
      | [] => throw .wordWanted
      | ['!'] :: rest =>
          let (result, rest) ← term s again fuel rest
          return (!result, rest)
      | ['('] :: rest =>
          let (result, rest) ← again rest
          match rest with
          | [')'] :: rest => return (result, rest)
          | _ => throw .closeWanted
      | a :: b :: c :: rest =>
          if isBinary b then return (← testBinary s a b c, rest)
          else if isUnary a then return (testUnary s a b, c :: rest)
          else return (!a.isEmpty, b :: c :: rest)
      | [a, b] => if isUnary a then return (testUnary s a b, []) else return (!a.isEmpty, [b])
      | [a] => return (!a.isEmpty, [])

/-- Tests joined by one sign; `all` says how their results are. -/
def joined (sign : List Char) (all : Bool) (one : TestReader) : Nat → TestReader
  | 0, _ => .error .wordWanted
  | fuel + 1, words => do
      let (result, rest) ← one words
      match rest with
      | next :: rest =>
          if next = sign then
            let (other, rest) ← joined sign all one fuel rest
            return (if all then result && other else result || other, rest)
          else return (result, next :: rest)
      | [] => return (result, [])

/-- A test of any words at the front. -/
def any (s : State) : Nat → TestReader
  | 0, _ => .error .wordWanted
  | depth + 1, words =>
      let rounds := words.length + 1
      let one := term s (any s depth) rounds
      joined ['-', 'o'] false (joined ['-', 'a'] true one rounds) rounds words

/-- The result of a test of all words. -/
def whole (s : State) (words : List (List Char)) : Except TestFault Bool := do
  let (result, rest) ← any s (words.length + 1) words
  match rest with
  | [] => return result
  | word :: _ => throw (.tooMany word)

end ExtendedTest

/-- The result of a test in the larger dialect. Few words are taken by their number. -/
def extendedTest (s : State) (words : List (List Char)) : Except TestFault Bool := do
  match words with
  | [] => return false
  | [a] => return !a.isEmpty
  | [a, b] => ExtendedTest.two s a b
  | [a, b, c] => ExtendedTest.three s a b c
  | [['!'], a, b, c] => return !(← ExtendedTest.three s a b c)
  | [['('], a, b, [')']] => ExtendedTest.two s a b
  | words => ExtendedTest.whole s words

/-! ## The plain dialect -/

/-- The result of a test of these words. Few words are taken by their number first. -/
def plainTest (s : State) : Nat → Bool → List (List Char) → Except TestFault Bool
  | 0, _, _ => .ok false
  | fuel + 1, wanted, words =>
      let whole (words : List (List Char)) (first : Except TestFault (Bool × List (List Char))) :
          Except TestFault Bool := do
        let (result, rest) ← first
        match rest with
        | word :: _ :: _ => throw (.unexpected (if words.isEmpty then [] else word))
        | _ => return result == wanted
      let read (words : List (List Char)) : Except TestFault Bool :=
        whole words (testAny s (words.length + 1) words)
      match words with
      | [] => .ok (!wanted)
      | [a, b, c] =>
          if testSign? true b = some .binary then do
            return (← testBinary s a b c) == wanted
          else if a = ['('] && c = [')'] then read [b]
          else if a = ['!'] then plainTest s fuel (!wanted) [b, c]
          else read words
      | [a, b, c, d] =>
          if a = ['('] && d = [')'] then read [b, c]
          else if a = ['!'] then plainTest s fuel (!wanted) [b, c, d]
          else read words
      | words => read words

/-- The result of a test of words. -/
def test (s : State) (words : List (List Char)) : Except TestFault Bool :=
  if s.isPlain then plainTest s (words.length + 4) true words else extendedTest s words

end PluginBundle.Shell
