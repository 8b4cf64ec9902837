import ImportScan.Proofs.RegexGrammar

/-!
# Literals and the scanner

Where code starts with a quote, the scanner reads a string, and where it starts with a slash that is
neither a comment nor a division, a regular expression.  It accepts exactly the literals of the
grammars, and its token is the whole literal.

## Main results

* `scan_quote`, `scan_slash` — where literals are read.
* `scan_of_startsLiteral`, `scan_of_startsRegex` — their tokens.
* `literals_scanned` — **the scanner accepts exactly the literals of the grammars**.
-/

namespace ImportScan

/-! ### Where literals are read -/

section

variable {l : Language} {mode : Mode} {previous : Option Significant} {quote : Char}
  {cs flags : List Char} {items : List (List Char)}

theorem branch_quote (hquote : quote = '\x22' ∨ quote = '\x27') (next : Option Char) :
    branch l previous quote next = .string := by
  have hblank : isBlank quote = false := by rcases hquote with rfl | rfl <;> decide
  have hword : isIdentifierStart quote = false := by rcases hquote with rfl | rfl <;> decide
  have hreturn : quote ≠ '\r' := ne_of_not_isBlank hblank (by decide)
  rcases hquote with rfl | rfl <;>
    simp [branch, hreturn, isLineEnd_of_not_isBlank hblank, hblank, hword]

theorem scan_quote (hmode : mode.isCode = true) (hquote : quote = '\x22' ∨ quote = '\x27') :
    scan l mode previous quote cs = Branch.string.scan l quote cs := by
  rw [scan_of_isCode hmode, scanCode_eq, branch_quote hquote]

/-- Where code starts with a slash that is no comment, and a regular expression is allowed, one is
read. -/
theorem scan_slash (hmode : mode.isCode = true) (hallowed : regexAllowed previous = true)
    (hcomment : cs.head? ≠ some '/' ∧ cs.head? ≠ some '*') :
    scan .ecma mode previous '/' cs = Branch.regex.scan .ecma '/' cs := by
  rw [scan_of_isCode hmode, scanCode_eq, branch_slash, if_neg hcomment.1, if_neg hcomment.2,
    signBranch, if_neg (by decide), if_pos (by simp [hallowed])]

/-! ### Their tokens -/

/-- The token of a string is the literal that the text starts with. -/
theorem scan_of_startsLiteral (hmode : mode.isCode = true)
    (hquote : quote = '\x22' ∨ quote = '\x27')
    (h : StartsLiteral (StringItem quote) quote items (quote :: cs)) :
    ∃ s, scan l mode previous quote cs = .ok s ∧ s.kind = .stringLiteral ∧
      s.length = (enclosed quote items).length := by
  have hmark : isQuoteMark quote = true := by rcases hquote with rfl | rfl <;> rfl
  have hextent : stringExtent? quote cs = some (items.flatten.length + 1) :=
    h.stringExtent?_eq hmark
  rw [scan_quote hmode hquote, Branch.scan, hextent, length_enclosed]
  exact ⟨_, rfl, rfl, rfl⟩

/-- Where no string starts, the quote is left open. -/
theorem scan_of_not_startsLiteral (hmode : mode.isCode = true)
    (hquote : quote = '\x22' ∨ quote = '\x27')
    (h : ∀ items, ¬ StartsLiteral (StringItem quote) quote items (quote :: cs)) :
    scan l mode previous quote cs = .error .openString := by
  have hmark : isQuoteMark quote = true := by rcases hquote with rfl | rfl <;> rfl
  have hextent : stringExtent? quote cs = none := by
    rw [Option.eq_none_iff_forall_ne_some]
    intro n hn
    obtain ⟨items, hstarts⟩ := exists_startsLiteral_of_stringExtent? hn
    exact h items hstarts
  rw [scan_quote hmode hquote, Branch.scan, hextent]

/-- The token of a regular expression is the literal that the text starts with, and its flags. -/
theorem scan_of_startsRegex (hmode : mode.isCode = true) (hallowed : regexAllowed previous = true)
    (hcomment : cs.head? ≠ some '/' ∧ cs.head? ≠ some '*')
    (h : StartsRegex items flags ('/' :: cs)) :
    ∃ s, scan .ecma mode previous '/' cs = .ok s ∧ s.kind = .regexpLiteral ∧
      s.length = (enclosed '/' items ++ flags).length := by
  rw [scan_slash hmode hallowed hcomment, Branch.scan, h.extent?_eq, length_enclosed_append]
  exact ⟨_, rfl, rfl, rfl⟩

/-- Where no regular expression starts, the slash is left open. -/
theorem scan_of_not_startsRegex (hmode : mode.isCode = true)
    (hallowed : regexAllowed previous = true)
    (hcomment : cs.head? ≠ some '/' ∧ cs.head? ≠ some '*')
    (h : ∀ items, ¬ StartsLiteral RegexItem '/' items ('/' :: cs)) :
    scan .ecma mode previous '/' cs = .error .openRegex := by
  have hextent : regexExtent? false cs = none := by
    rw [Option.eq_none_iff_forall_ne_some]
    intro n hn
    obtain ⟨items, flags, hstarts, -⟩ := regexExtent?_eq_some_iff.1 hn
    exact h items hstarts.startsLiteral
  rw [scan_slash hmode hallowed hcomment, Branch.scan, hextent]

theorem stripQuotes_enclosed (hmark : isQuoteMark quote = true) (items : List (List Char)) :
    stripQuotes (String.ofList (enclosed quote items)) = String.ofList items.flatten := by
  have hliteral : String.ofList (enclosed quote items)
      = String.singleton quote ++ String.ofList items.flatten ++ String.singleton quote := by
    rw [← String.toList_inj]
    simp [enclosed]
  rw [hliteral, stripQuotes_quoted hmark]

/-- Behind the items of a string stands no line feed where an item ends, so an escaped carriage
return with a line feed behind it is one item. -/
theorem StringItem.head?_behind_ne (hmark : isQuoteMark quote = true)
    (hitems : ∀ item ∈ items, StringItem quote item) {front back : List (List Char)}
    {item : List Char} (hcut : items = front ++ item :: back) :
    (back.flatten ++ [quote]).head? ≠ some '\n' :=
  (itemsApart_string hmark).follows [] fun u hu => hitems u (by simp [hcut, hu])

/-- **The scanner accepts exactly the literals of the grammars.**  A string is read just where the
text starts with one, which is then the only one and has its items in one way only; the token is
that string, its quotes are taken off it, and an escaped line end of two characters is one item.  A
regular expression is read just where the text starts with one, and the token goes on to the end of
its flags.  Where the text starts with none, the literal is unterminated. -/
theorem literals_scanned (l : Language) {mode : Mode} (previous : Option Significant)
    (hmode : mode.isCode = true) :
    -- how far a string reaches, and what stands in it
    (∀ (quote : Char) (cs : List Char), isQuoteMark quote = true →
      (∀ n, stringExtent? quote cs = some n ↔
        ∃ items, StartsLiteral (StringItem quote) quote items (quote :: cs) ∧
          n + 1 = (enclosed quote items).length) ∧
      (∀ items items', StartsLiteral (StringItem quote) quote items (quote :: cs) →
        StartsLiteral (StringItem quote) quote items' (quote :: cs) → items = items') ∧
      (∀ items, StartsLiteral (StringItem quote) quote items (quote :: cs) →
        stripQuotes (String.ofList (enclosed quote items)) = String.ofList items.flatten ∧
        ∀ front back, items = front ++ ['\\', '\r'] :: back →
          (back.flatten ++ [quote]).head? ≠ some '\n')) ∧
    -- the token of a string
    (∀ (quote : Char) (cs : List Char), quote = '\x22' ∨ quote = '\x27' →
      (∀ items, StartsLiteral (StringItem quote) quote items (quote :: cs) →
        ∃ s, scan l mode previous quote cs = .ok s ∧ s.kind = .stringLiteral ∧
          s.length = (enclosed quote items).length) ∧
      ((∀ items, ¬ StartsLiteral (StringItem quote) quote items (quote :: cs)) →
        ∃ fault, scan l mode previous quote cs = .error fault ∧
          fault.message = "unterminated string literal")) ∧
    -- how far a regular expression reaches
    (∀ cs : List Char,
      (∀ n, regexExtent? false cs = some n ↔
        ∃ items flags, StartsRegex items flags ('/' :: cs) ∧
          n + 1 = (enclosed '/' items ++ flags).length) ∧
      ((∃ n, regexExtent? false cs = some n) ↔
        ∃ items, StartsLiteral RegexItem '/' items ('/' :: cs)) ∧
      (∀ items items', StartsLiteral RegexItem '/' items ('/' :: cs) →
        StartsLiteral RegexItem '/' items' ('/' :: cs) → items = items')) ∧
    -- the token of a regular expression
    (∀ cs : List Char, regexAllowed previous = true →
      cs.head? ≠ some '/' ∧ cs.head? ≠ some '*' →
      (∀ items flags, StartsRegex items flags ('/' :: cs) →
        ∃ s, scan .ecma mode previous '/' cs = .ok s ∧ s.kind = .regexpLiteral ∧
          s.length = (enclosed '/' items ++ flags).length) ∧
      ((∀ items, ¬ StartsLiteral RegexItem '/' items ('/' :: cs)) →
        ∃ fault, scan .ecma mode previous '/' cs = .error fault ∧
          fault.message = "unterminated regular expression")) := by
  refine ⟨fun quote cs hmark => ⟨fun n => stringExtent?_eq_some_iff hmark,
    fun items items' h h' => h.unique (itemsApart_string hmark) h', fun items h => ⟨?_, ?_⟩⟩,
    fun quote cs hquote => ⟨fun items h => scan_of_startsLiteral hmode hquote h, fun h => ?_⟩,
    fun cs => ⟨fun n => regexExtent?_eq_some_iff, ?_,
      fun items items' h h' => h.unique itemsApart_regex h'⟩,
    fun cs hallowed hcomment => ⟨fun items flags h => scan_of_startsRegex hmode hallowed hcomment h,
      fun h => ?_⟩⟩
  · exact stripQuotes_enclosed hmark items
  · intro front back hcut
    exact StringItem.head?_behind_ne hmark h.forall_items hcut
  · exact ⟨.openString, scan_of_not_startsLiteral hmode hquote h, rfl⟩
  · constructor
    · rintro ⟨n, hn⟩
      obtain ⟨items, flags, hstarts, -⟩ := regexExtent?_eq_some_iff.1 hn
      exact ⟨items, hstarts.startsLiteral⟩
    · rintro ⟨items, hstarts⟩
      obtain ⟨flags, hflags⟩ := hstarts.exists_flags
      exact ⟨_, hflags.extent?_eq⟩
  · exact ⟨.openRegex, scan_of_not_startsRegex hmode hallowed hcomment h, rfl⟩

/-- A string with an escaped quote and an escaped line end of two characters is read up to its own
quote, though another one follows; slashes that are escaped or in a class do not end a regular
expression; and what is escaped at the end of the text leaves both open. -/
theorem literals_scanned_escapes :
    (∃ s, scan .ecma .script none '\x27' "a\\'\\\r\nb' c'".toList = .ok s ∧
      s.kind = .stringLiteral ∧ s.length = "'a\\'\\\r\nb'".length) ∧
    (∃ fault, scan .ecma .script none '\x22' "a\\\x22".toList = .error fault ∧
      fault.message = "unterminated string literal") ∧
    (∃ s, scan .ecma .script none '/' "[/\\]]\\//gi;".toList = .ok s ∧
      s.kind = .regexpLiteral ∧ s.length = "/[/\\]]\\//gi".length) ∧
    (∃ fault, scan .ecma .script none '/' "[/]\\/".toList = .error fault ∧
      fault.message = "unterminated regular expression") := by
  obtain ⟨hstring, hquote, hregex, hslash⟩ :=
    literals_scanned .ecma none (rfl : Mode.script.isCode = true)
  refine ⟨?_, ?_, ?_, ?_⟩
  · have hextent : stringExtent? '\x27' "a\\'\\\r\nb' c'".toList = some 8 := by decide +kernel
    obtain ⟨items, hstarts, hlength⟩ := ((hstring _ _ rfl).1 8).1 hextent
    obtain ⟨s, hscan, hkind, hs⟩ := (hquote _ _ (.inr rfl)).1 items hstarts
    exact ⟨s, hscan, hkind, hs.trans hlength.symm⟩
  · refine (hquote _ _ (.inl rfl)).2 fun items hstarts => ?_
    have hopen : stringExtent? '\x22' "a\\\x22".toList = none := by decide +kernel
    -- a literal of these items would have an extent, and there is none
    have hextent := ((hstring _ _ rfl).1 (items.flatten.length + 1)).2
      ⟨items, hstarts, by rw [length_enclosed]⟩
    rw [hopen] at hextent
    cases hextent
  · have hextent : regexExtent? false "[/\\]]\\//gi;".toList = some 10 := by decide +kernel
    obtain ⟨items, flags, hstarts, hlength⟩ := ((hregex _).1 10).1 hextent
    obtain ⟨s, hscan, hkind, hs⟩ := (hslash _ rfl (by decide +kernel)).1 items flags hstarts
    exact ⟨s, hscan, hkind, hs.trans hlength.symm⟩
  · refine (hslash _ rfl (by decide +kernel)).2 fun items hstarts => ?_
    have hopen : regexExtent? false "[/]\\/".toList = none := by decide +kernel
    -- here as well the extent would be there
    obtain ⟨n, hextent⟩ := (hregex _).2.1.2 ⟨items, hstarts⟩
    rw [hopen] at hextent
    cases hextent

end

end ImportScan
