import ImportScan.Lexer.Scan

/-!
# The branches of the scanner

Which branch of `scanCode` takes a text is told by its first two characters, by the language and by
whether the token before allows a regular expression.  The rest of the text only says how far the
token reaches, and each branch asks for that in its own way.  So two texts can be compared in two
steps: they take the same branch, and there they give tokens that correspond.

## Main definitions

* `Branch`, `branch` — the branches, and the one that a text takes.
* `Branch.scan` — the token that a branch gives.

## Main results

* `scanCode_eq` — **code is scanned by its branch**.
* `branch_return`, `branch_slash`, `branch_point`, `branch_of_ne` — which characters look ahead.
-/

namespace ImportScan

/-- The branches of the scanner of code. -/
inductive Branch where
  /-- A line end of two characters. -/
  | lineEndPair
  /-- A line end of one character. -/
  | lineEnd
  /-- Blanks on one line. -/
  | blanks
  /-- A comment that ends with its line. -/
  | lineComment
  /-- A comment with an end of its own. -/
  | blockComment
  /-- A preprocessor line. -/
  | directive
  /-- A keyword or an identifier. -/
  | word
  /-- A number. -/
  | number
  /-- A string. -/
  | string
  /-- The quote that opens a template. -/
  | template
  /-- A regular expression. -/
  | regex
  /-- A punctuator. -/
  | punctuator
  deriving DecidableEq, Repr

/-- The branch that is taken when nothing else starts with `c`. -/
def signBranch (l : Language) (previous : Option Significant) (c : Char) : Branch :=
  match l with
  | .c => .punctuator
  | .ecma =>
    if c = templateQuote then .template
    else if c = '/' && regexAllowed previous then .regex
    else .punctuator

/-- The branch that is taken at the character `c`, when `next` follows it. -/
def branch (l : Language) (previous : Option Significant) (c : Char) (next : Option Char) : Branch :=
  if c = '\r' && next == some '\n' then .lineEndPair
  else if isLineEnd c then .lineEnd
  else if isBlank c then .blanks
  else if c = '/' && next == some '/' then .lineComment
  else if c = '/' && next == some '*' then .blockComment
  else if c = '#' && l == .c then .directive
  else if isIdentifierStart c then .word
  else if c.isDigit || (c == '.' && next.any Char.isDigit) then .number
  else if c = '\x22' || c = '\x27' then .string
  else signBranch l previous c

/-- The token that starts with `c`, when it is taken by a branch. -/
def Branch.scan (l : Language) (c : Char) (cs : List Char) : Branch → Except LexFault Scan
  | .lineEndPair => .ok { kind := .whitespace, length := 2, length_pos := Nat.succ_pos _ }
  | .lineEnd => .ok { kind := .whitespace, length := 1, length_pos := Nat.succ_pos _ }
  | .blanks =>
    .ok { kind := .whitespace, length := blankExtent cs + 1, length_pos := Nat.succ_pos _ }
  | .lineComment =>
    .ok { kind := .comment, length := lineExtent cs + 1, length_pos := Nat.succ_pos _ }
  | .blockComment =>
    match commentExtent? cs.tail with
    | some n => .ok { kind := .comment, length := n + 2, length_pos := Nat.succ_pos _ }
    | none => .error .openComment
  | .directive =>
    .ok { kind := .preprocessor, length := lineExtent cs + 1, length_pos := Nat.succ_pos _ }
  | .word => .ok (scanWord l c cs)
  | .number =>
    .ok { kind := .numericLiteral, length := numberExtent (isHexadecimal c cs) c cs + 1,
          length_pos := Nat.succ_pos _ }
  | .string =>
    match stringExtent? c cs with
    | some n => .ok { kind := .stringLiteral, length := n + 1, length_pos := Nat.succ_pos n }
    | none => .error .openString
  | .template =>
    .ok { kind := .templateLiteral, length := 1, transition := .enter .template,
          length_pos := Nat.succ_pos _ }
  | .regex =>
    match regexExtent? false cs with
    | some n => .ok { kind := .regexpLiteral, length := n + 1, length_pos := Nat.succ_pos n }
    | none => .error .openRegex
  | .punctuator => scanPunctuator l c cs

variable {l : Language} {previous : Option Significant} {c : Char} {cs : List Char}

theorem scanSign_eq (l : Language) (previous : Option Significant) (c : Char) (cs : List Char) :
    scanSign l previous c cs = (signBranch l previous c).scan l c cs := by
  cases l with
  | c => rfl
  | ecma =>
    simp only [signBranch, apply_ite (Branch.scan .ecma c cs)]
    rfl

/-- **Code is scanned by its branch.** -/
theorem scanCode_eq (l : Language) (previous : Option Significant) (c : Char) (cs : List Char) :
    scanCode l previous c cs = (branch l previous c cs.head?).scan l c cs := by
  simp only [branch, apply_ite (Branch.scan l c cs), ← scanSign_eq]
  rfl

/-! ### The characters that look ahead -/

theorem branch_return (next : Option Char) : branch l previous '\r' next
    = if next = some '\n' then .lineEndPair else .lineEnd := by
  have hline : isLineEnd '\r' = true := by decide
  simp [branch, hline]

theorem branch_slash (next : Option Char) : branch l previous '/' next
    = if next = some '/' then .lineComment
      else if next = some '*' then .blockComment
      else signBranch l previous '/' := by
  have hline : isLineEnd '/' = false := by decide
  have hblank : isBlank '/' = false := by decide
  have hword : isIdentifierStart '/' = false := by decide +kernel
  simp [branch, hline, hblank, hword]

theorem branch_point (next : Option Char) : branch l previous '.' next
    = if next.any Char.isDigit then .number else signBranch l previous '.' := by
  have hline : isLineEnd '.' = false := by decide
  have hblank : isBlank '.' = false := by decide
  have hword : isIdentifierStart '.' = false := by decide +kernel
  simp [branch, hline, hblank, hword]

theorem branch_of_ne (hreturn : c ≠ '\r') (hslash : c ≠ '/') (hpoint : c ≠ '.')
    (next next' : Option Char) : branch l previous c next = branch l previous c next' := by
  simp [branch, hreturn, hslash, hpoint]

end ImportScan
