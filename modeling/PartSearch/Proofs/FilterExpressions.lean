import Mathlib.Tactic.SplitIfs
import PartSearch.Filter.Basic
import PartSearch.Proofs.TrimmedText

/-!
# Filters as expressions

An expression can be read as a name, an operator symbol and a value in several ways: `>` may be a
symbol of its own or the start of `>=`, and white space may count to the parts or to what lies
between them. `Reading` says what such a way is, and `parse_cases` that the expression is taken in
its preferred way. A filter whose parts have no white space at their ends is therefore read from its
display text again, `parse_display`, even if its value starts with another symbol.

What is read from an expression is again such a filter, except that a side of the symbol where there
is nothing but white space gives up one blank character as a name or a value, `parse_exact`.
-/

namespace PartSearch.SpecFilter

open Text

/-- The parts of the filter can be told from the white space and the operator between them. -/
structure IsWritable (f : SpecFilter) : Prop where
  name : IsTidy f.name.toList
  free : ∀ c ∈ f.name.toList, isSymbolChar c = false
  value : IsTidy f.value.toList
  line : '\n' ∉ f.value.toList

/-- One way to read an expression: a name in front of a symbol and a value behind it, both with
white space around them. -/
structure Reading (expression : String) where
  front : List Char
  symbol : String
  back : List Char
  name : List Char
  value : List Char
  whole : expression.toList = front ++ (symbol.toList ++ back)
  free : ∀ c ∈ front, isSymbolChar c = false
  known : symbol ∈ symbols
  name_ne_nil : name ≠ []
  padded_name : IsPadded name front
  value_ne_nil : value ≠ []
  line : '\n' ∉ value
  padded_value : IsPadded value back

/-! ### Names -/

theorem middle_of_visible {cs : List Char} (h : cs.all isBlank = false) : middle cs = trim cs := by
  rw [middle, h, if_neg Bool.false_ne_true]

theorem isPadded_middle (cs : List Char) : IsPadded (middle cs) cs := by
  cases hblank : cs.all isBlank with
  | false =>
      rw [middle_of_visible hblank]
      exact isPadded_trim cs
  | true =>
      refine ⟨cs.take (cs.length - 1), [], ?_, rfl, ?_⟩
      · exact List.all_eq_true.mpr fun c hc =>
          List.all_eq_true.mp hblank c (List.mem_of_mem_take hc)
      · rw [middle, hblank, if_pos rfl, List.append_nil, List.take_append_drop]

theorem middle_ne_nil {cs : List Char} (h : cs ≠ []) : middle cs ≠ [] := by
  have hlength := List.length_pos_iff.mpr h
  unfold middle
  split
  · rw [Ne, List.drop_eq_nil_iff]
    omega
  · rename_i hvisible
    exact (isTidy_trim (Bool.eq_false_iff.mpr hvisible)).ne_nil

theorem isTidy_middle_iff {cs : List Char} :
    IsTidy (middle cs) ↔ cs.all isBlank = false := by
  constructor
  · intro htidy
    rw [Bool.eq_false_iff]
    intro hblank
    have hmiddle := (isPadded_middle cs).all_isBlank hblank
    rw [htidy.not_all_isBlank] at hmiddle
    cases hmiddle
  · intro hvisible
    rw [middle_of_visible hvisible]
    exact isTidy_trim hvisible

/-! ### Values -/

theorem valueOf?_of_visible {cs : List Char} (h : cs.all isBlank = false) :
    valueOf? cs = if '\n' ∈ trim cs then none else some (trim cs) := by
  simp [valueOf?, h]

theorem valueOf?_eq_some {cs value : List Char} (h : valueOf? cs = some value) :
    IsPadded value cs ∧ value ≠ [] ∧ '\n' ∉ value ∧ (IsTidy value ↔ cs.all isBlank = false) := by
  cases hblank : cs.all isBlank with
  | false =>
      rw [valueOf?_of_visible hblank] at h
      split_ifs at h with hline
      obtain rfl := Option.some.inj h
      have htidy := isTidy_trim hblank
      exact ⟨isPadded_trim cs, htidy.ne_nil, hline, iff_of_true htidy rfl⟩
  | true =>
      simp only [valueOf?, hblank, if_true, Option.map_eq_some_iff] at h
      obtain ⟨c, hlast, rfl⟩ := h
      obtain ⟨hc, hline⟩ := List.mem_filter.mp (List.mem_of_getLast? hlast)
      obtain ⟨before, after, rfl⟩ := List.append_of_mem hc
      have hpadded : IsPadded [c] (before ++ c :: after) := by
        rw [List.all_append, List.all_cons, Bool.and_eq_true, Bool.and_eq_true] at hblank
        exact ⟨before, after, hblank.1, hblank.2.2, by simp⟩
      refine ⟨hpadded, List.cons_ne_nil c [], ?_, iff_of_false (fun htidy => ?_) (by simp)⟩
      · intro hmem
        rw [← List.mem_singleton.mp hmem] at hline
        cases hline
      · have hpart := hpadded.all_isBlank hblank
        rw [htidy.not_all_isBlank] at hpart
        cases hpart

/-- Any way to read a value behind a symbol makes one be found. -/
theorem isSome_valueOf? {cs value : List Char} (hpadded : IsPadded value cs) (hne : value ≠ [])
    (hline : '\n' ∉ value) : (valueOf? cs).isSome = true := by
  cases hblank : cs.all isBlank with
  | false =>
      have htrim : '\n' ∉ trim cs := by
        rw [hpadded.trim_eq]
        exact fun hmem => hline ((isPadded_trim value).isInfix.subset hmem)
      rw [valueOf?_of_visible hblank, if_neg htrim]
      rfl
  | true =>
      obtain ⟨c, hc⟩ := List.exists_mem_of_ne_nil _ hne
      have hkept : c ∈ cs.filter (· != '\n') := by
        refine List.mem_filter.mpr ⟨hpadded.isInfix.subset hc, ?_⟩
        have hother : c ≠ '\n' := fun h => hline (h ▸ hc)
        simpa using hother
      simp only [valueOf?, hblank, if_true, Option.isSome_map, List.getLast?_isSome]
      exact List.ne_nil_of_mem hkept

/-! ### Symbols -/

theorem pairwise_symbols : symbols.Pairwise fun a b => b.length ≤ a.length := by decide

theorem isSymbolChar_of_mem_symbols {symbol : String} (h : symbol ∈ symbols) :
    ∃ c cs, symbol.toList = c :: cs ∧ isSymbolChar c = true := by
  have hall : ∀ symbol ∈ symbols, (symbol.toList.head?.any isSymbolChar) = true := by decide
  have hsymbol := hall symbol h
  cases hchars : symbol.toList with
  | nil =>
      rw [hchars] at hsymbol
      cases hsymbol
  | cons c cs =>
      rw [hchars] at hsymbol
      exact ⟨c, cs, rfl, hsymbol⟩

/-- What `splitSymbol?` makes of one symbol. -/
def behind? (cs : List Char) (symbol : String) : Option (String × List Char) :=
  if symbol.toList.isPrefixOf cs then
    (valueOf? (cs.drop symbol.length)).map fun value => (symbol, value)
  else none

theorem splitSymbol?_eq (cs : List Char) : splitSymbol? cs = symbols.findSome? (behind? cs) := rfl

theorem behind?_append (symbol : String) (back : List Char) :
    behind? (symbol.toList ++ back) symbol = (valueOf? back).map fun value => (symbol, value) := by
  have hprefix : symbol.toList.isPrefixOf (symbol.toList ++ back) = true := by simp
  rw [behind?, if_pos hprefix, ← String.length_toList, List.drop_left]

theorem behind?_eq_some {cs value : List Char} {symbol chosen : String}
    (h : behind? cs symbol = some (chosen, value)) :
    chosen = symbol ∧ ∃ back, cs = symbol.toList ++ back ∧ valueOf? back = some value := by
  unfold behind? at h
  split at h
  · rename_i hprefix
    obtain ⟨back, rfl⟩ := List.isPrefixOf_iff_prefix.mp hprefix
    rw [← String.length_toList, List.drop_left] at h
    obtain ⟨found, hfound, heq⟩ := Option.map_eq_some_iff.mp h
    obtain ⟨rfl, rfl⟩ := Prod.mk.inj heq
    exact ⟨rfl, back, rfl, hfound⟩
  · cases h

/-- The symbol that is chosen leaves a value, and no longer symbol does. -/
theorem splitSymbol?_eq_some {cs value : List Char} {symbol : String}
    (h : splitSymbol? cs = some (symbol, value)) :
    symbol ∈ symbols ∧ (∃ back, cs = symbol.toList ++ back ∧ valueOf? back = some value) ∧
      ∀ other ∈ symbols, ∀ rest, cs = other.toList ++ rest → (valueOf? rest).isSome = true →
        other.length ≤ symbol.length := by
  rw [splitSymbol?_eq] at h
  obtain ⟨earlier, chosen, later, hsymbols, hchosen, hearlier⟩ :=
    List.findSome?_eq_some_iff.mp h
  obtain ⟨rfl, hback⟩ := behind?_eq_some hchosen
  refine ⟨hsymbols ▸ List.mem_append_right _ List.mem_cons_self, hback, ?_⟩
  intro other hother rest hcs hrest
  rw [hsymbols] at hother
  have hordered := hsymbols ▸ pairwise_symbols
  rcases List.mem_append.mp hother with hbefore | hafter
  · -- An earlier symbol would have been chosen.
    have hnone := hearlier other hbefore
    rw [hcs, behind?_append, Option.map_eq_none_iff] at hnone
    rw [hnone] at hrest
    cases hrest
  · rcases List.mem_cons.mp hafter with rfl | hlater
    · exact le_rfl
    · exact (List.pairwise_cons.mp (List.pairwise_append.mp hordered).2.1).1 other hlater

theorem isSome_splitSymbol? {symbol : String} (h : symbol ∈ symbols) {back : List Char}
    (hback : (valueOf? back).isSome = true) :
    (splitSymbol? (symbol.toList ++ back)).isSome = true := by
  rw [splitSymbol?_eq, List.findSome?_isSome_iff]
  refine ⟨symbol, h, ?_⟩
  rw [behind?_append, Option.isSome_map]
  exact hback

/-! ### Readings -/

namespace Reading

variable {expression : String} (r : Reading expression)

theorem takeWhile_eq : expression.toList.takeWhile (fun c => !isSymbolChar c) = r.front := by
  obtain ⟨c, cs, hsymbol, hc⟩ := isSymbolChar_of_mem_symbols r.known
  have hfree : ∀ c ∈ r.front, (!isSymbolChar c) = true := fun c hmem => by rw [r.free c hmem]; rfl
  rw [r.whole, List.takeWhile_append_of_pos hfree, hsymbol, List.cons_append,
    List.takeWhile_cons_of_neg (by rw [hc]; exact Bool.false_ne_true), List.append_nil]

theorem dropWhile_eq :
    expression.toList.dropWhile (fun c => !isSymbolChar c) = r.symbol.toList ++ r.back := by
  have hsplit : r.front ++ expression.toList.dropWhile (fun c => !isSymbolChar c) =
      r.front ++ (r.symbol.toList ++ r.back) := by
    rw [← r.whole, ← r.takeWhile_eq, List.takeWhile_append_dropWhile]
  exact List.append_cancel_left hsplit

theorem isSome_valueOf?_back : (valueOf? r.back).isSome = true :=
  isSome_valueOf? r.padded_value r.value_ne_nil r.line

theorem front_eq (other : Reading expression) : r.front = other.front :=
  r.takeWhile_eq.symm.trans other.takeWhile_eq

theorem symbol_append_back_eq (other : Reading expression) :
    r.symbol.toList ++ r.back = other.symbol.toList ++ other.back :=
  r.dropWhile_eq.symm.trans other.dropWhile_eq

theorem back_eq {other : Reading expression} (h : r.symbol = other.symbol) :
    r.back = other.back := by
  have hbehind := r.symbol_append_back_eq other
  rw [h] at hbehind
  exact List.append_cancel_left hbehind

variable {r}

/-- The reading that an expression has: the longest symbol that leaves a value, and parts that are
only blank if there is nothing else to take. -/
structure IsPreferred (r : Reading expression) : Prop where
  longest : ∀ other : Reading expression, other.symbol.length ≤ r.symbol.length
  isTidy_name : IsTidy r.name ↔ r.front.all isBlank = false
  isTidy_value : IsTidy r.value ↔ r.back.all isBlank = false

/-- No symbol has more than two characters, so one of that length is the preferred one. -/
theorem IsPreferred.symbol_eq_of_two (h : r.IsPreferred) (other : Reading expression)
    (htwo : other.symbol.length = 2) : r.symbol = other.symbol := by
  have hbound : ∀ symbol ∈ symbols, symbol.length ≤ 2 := by decide
  have hlength : r.symbol.length = other.symbol.length := by
    have hlower := h.longest other
    have hupper := hbound r.symbol r.known
    omega
  rw [← String.length_toList, ← String.length_toList] at hlength
  exact String.toList_inj.mp (List.append_inj_left (r.symbol_append_back_eq other) hlength)

/-- A symbol with a space behind it is not part of a longer one. -/
theorem IsPreferred.symbol_eq_of_space (h : r.IsPreferred) (other : Reading expression)
    {rest : List Char} (hspace : other.back = ' ' :: rest) : r.symbol = other.symbol := by
  have hnoSpace : ∀ symbol ∈ symbols, ' ' ∉ symbol.toList := by decide
  have hlength := h.longest other
  have hbehind := r.symbol_append_back_eq other
  rw [hspace] at hbehind
  rcases List.append_eq_append_iff.mp hbehind with ⟨more, hother, -⟩ | ⟨more, hsymbol, hmore⟩
  · have hshorter : more = [] := by
      rw [← String.length_toList, ← String.length_toList, hother, List.length_append] at hlength
      exact List.eq_nil_of_length_eq_zero (by omega)
    rw [hshorter, List.append_nil] at hother
    exact String.toList_inj.mp hother.symm
  · cases more with
    | nil =>
        rw [List.append_nil] at hsymbol
        exact String.toList_inj.mp hsymbol
    | cons c more =>
        obtain ⟨rfl, -⟩ := List.cons.inj hmore
        refine absurd ?_ (hnoSpace r.symbol r.known)
        rw [hsymbol]
        exact List.mem_append_right _ List.mem_cons_self

/-- A name without white space at its ends is the one that is taken. -/
theorem IsPreferred.name_eq (h : r.IsPreferred) (other : Reading expression)
    (htidy : IsTidy other.name) : r.name = other.name := by
  have hpadded := other.padded_name
  rw [← r.front_eq other] at hpadded
  have hname := h.isTidy_name.mpr (hpadded.visible htidy)
  rw [← r.padded_name.trim_of_isTidy hname, hpadded.trim_of_isTidy htidy]

theorem IsPreferred.value_eq (h : r.IsPreferred) (other : Reading expression)
    (hsymbol : r.symbol = other.symbol) (htidy : IsTidy other.value) : r.value = other.value := by
  have hpadded := other.padded_value
  rw [← r.back_eq hsymbol] at hpadded
  have hvalue := h.isTidy_value.mpr (hpadded.visible htidy)
  rw [← r.padded_value.trim_of_isTidy hvalue, hpadded.trim_of_isTidy htidy]

end Reading

theorem Reading.front_ne_nil {expression : String} (r : Reading expression) : r.front ≠ [] := by
  intro hnil
  have hinfix := r.padded_name.isInfix
  rw [hnil] at hinfix
  exact r.name_ne_nil (List.eq_nil_of_infix_nil hinfix)

/-- The text in front of the first operator character and the symbol that is chosen behind it make
the preferred reading. -/
theorem exists_isPreferred {expression symbol : String} {value : List Char}
    (hfront : expression.toList.takeWhile (fun c => !isSymbolChar c) ≠ [])
    (hsplit : splitSymbol? (expression.toList.dropWhile fun c => !isSymbolChar c) =
      some (symbol, value)) :
    ∃ r : Reading expression, r.IsPreferred ∧ r.symbol = symbol ∧ r.value = value ∧
      r.name = middle (expression.toList.takeWhile fun c => !isSymbolChar c) := by
  have hfree : ∀ c ∈ expression.toList.takeWhile (fun c => !isSymbolChar c),
      isSymbolChar c = false := fun c hc => by simpa using List.mem_takeWhile_imp hc
  obtain ⟨hknown, ⟨back, hback, hvalue⟩, hlongest⟩ := splitSymbol?_eq_some hsplit
  obtain ⟨hpadded, hne, hline, htidy⟩ := valueOf?_eq_some hvalue
  have hwhole : expression.toList =
      expression.toList.takeWhile (fun c => !isSymbolChar c) ++ (symbol.toList ++ back) := by
    rw [← hback, List.takeWhile_append_dropWhile]
  refine ⟨⟨_, symbol, back, _, value, hwhole, hfree, hknown, middle_ne_nil hfront,
    isPadded_middle _, hne, hline, hpadded⟩, ⟨?_, isTidy_middle_iff, htidy⟩, rfl, rfl, rfl⟩
  intro other
  exact hlongest other.symbol other.known other.back other.dropWhile_eq other.isSome_valueOf?_back

/-- An expression without a reading is refused as it stands; any other one is judged by the operator
of its preferred reading. -/
theorem parse_cases (expression : String) :
    IsEmpty (Reading expression) ∧ parse expression = .error (.invalidExpression expression) ∨
      ∃ r : Reading expression, r.IsPreferred ∧
        parse expression = ofSymbol (String.ofList r.name) r.symbol (String.ofList r.value) := by
  unfold parse
  simp only
  cases hsplit : splitSymbol? (expression.toList.dropWhile fun c => !isSymbolChar c) with
  | none =>
      refine Or.inl ⟨⟨fun r => ?_⟩, rfl⟩
      have hsome := isSome_splitSymbol? r.known r.isSome_valueOf?_back
      rw [← r.dropWhile_eq, hsplit] at hsome
      cases hsome
  | some found =>
      obtain ⟨symbol, value⟩ := found
      by_cases hfront : expression.toList.takeWhile (fun c => !isSymbolChar c) = []
      · refine Or.inl ⟨⟨fun r => r.front_ne_nil (r.takeWhile_eq.symm.trans hfront)⟩, ?_⟩
        rw [hfront]
        rfl
      · obtain ⟨r, hr, hsymbol, hvalue, hname⟩ := exists_isPreferred hfront hsplit
        refine Or.inr ⟨r, hr, ?_⟩
        rw [hname, hsymbol, hvalue, List.isEmpty_eq_false_iff.mpr (middle_ne_nil hfront)]
        rfl

/-! ### Operators -/

theorem ofSymbol?_symbol (operator : Operator) :
    Operator.ofSymbol? operator.symbol = some operator := by
  cases operator <;> decide +kernel

theorem ofSymbol_symbol (name value : String) (operator : Operator) :
    ofSymbol name operator.symbol value = .ok ⟨name, operator, value⟩ := by
  rw [ofSymbol, ofSymbol?_symbol]

theorem symbol_cases {symbol : String} (h : symbol ∈ symbols) :
    (∃ operator : Operator, operator.symbol = symbol) ∨ symbol = "!=" ∨ symbol = "==" := by
  have hall : ∀ symbol ∈ symbols,
      (∃ operator ∈ Operator.all, operator.symbol = symbol) ∨ symbol = "!=" ∨ symbol = "==" := by
    decide
  exact (hall symbol h).imp_left fun ⟨operator, _, hsymbol⟩ => ⟨operator, hsymbol⟩

theorem symbol_not_refused (operator : Operator) :
    ¬ (operator.symbol = "!=" ∨ operator.symbol = "==") := by
  cases operator <;> decide

theorem ofSymbol_refused {symbol : String} (h : symbol = "!=" ∨ symbol = "==")
    (name value : String) : ofSymbol name symbol value = .error (.invalidOperator symbol) := by
  have hnone : Operator.ofSymbol? symbol = none ∧ trimmed symbol = symbol := by
    rcases h with rfl | rfl <;> decide +kernel
  rw [ofSymbol, hnone.1, hnone.2]

/-- The symbols that are refused have two characters, so that a reading with one of them is the
preferred one. -/
theorem Reading.IsPreferred.symbol_eq_of_refused {expression : String} {r : Reading expression}
    (h : r.IsPreferred) (other : Reading expression)
    (hrefused : other.symbol = "!=" ∨ other.symbol = "==") : r.symbol = other.symbol := by
  refine h.symbol_eq_of_two other ?_
  rcases hrefused with hsymbol | hsymbol <;> rw [hsymbol] <;> rfl

/-! ### What an expression is read as -/

theorem symbol_mem_symbols (operator : Operator) : operator.symbol ∈ symbols := by
  cases operator <;> decide

/-- The reading with which a filter is displayed. -/
def Reading.ofDisplay {f : SpecFilter} (h : f.IsWritable) : Reading f.display where
  front := f.name.toList ++ [' ']
  symbol := f.operator.symbol
  back := ' ' :: f.value.toList
  name := f.name.toList
  value := f.value.toList
  whole := by simp [display]
  free := by
    intro c hc
    rcases List.mem_append.mp hc with hname | hspace
    · exact h.free c hname
    · rw [List.mem_singleton.mp hspace]
      rfl
  known := symbol_mem_symbols f.operator
  name_ne_nil := h.name.ne_nil
  padded_name := ⟨[], [' '], rfl, rfl, rfl⟩
  value_ne_nil := h.value.ne_nil
  line := h.line
  padded_value := ⟨[' '], [], rfl, rfl, by simp⟩

/-- What a filter is displayed as is read as the filter itself, whatever operator characters its
value starts with. -/
theorem parse_display {f : SpecFilter} (h : f.IsWritable) : parse f.display = .ok f := by
  let written := Reading.ofDisplay h
  rcases parse_cases f.display with ⟨hnone, -⟩ | ⟨r, hr, hparse⟩
  · exact hnone.elim written
  · have hsymbol : r.symbol = f.operator.symbol := hr.symbol_eq_of_space written rfl
    have hname : r.name = f.name.toList := hr.name_eq written h.name
    have hvalue : r.value = f.value.toList := hr.value_eq written hsymbol h.value
    rw [hparse, hsymbol, hname, hvalue, String.ofList_toList, String.ofList_toList, ofSymbol_symbol]

theorem parse_display_symbolInValue :
    (⟨"Vds", .gt, "= 30V >"⟩ : SpecFilter).IsWritable ∧
      (⟨"Vds", .gt, "= 30V >"⟩ : SpecFilter).display = "Vds > = 30V >" ∧
      parse "Vds > = 30V >" = .ok ⟨"Vds", .gt, "= 30V >"⟩ := by
  have hwritable : (⟨"Vds", .gt, "= 30V >"⟩ : SpecFilter).IsWritable :=
    { name := ⟨List.cons_ne_nil _ _, rfl⟩
      free := by simp [isSymbolChar]
      value := ⟨List.cons_ne_nil _ _, rfl⟩
      line := by decide }
  have hdisplay : (⟨"Vds", .gt, "= 30V >"⟩ : SpecFilter).display = "Vds > = 30V >" := rfl
  exact ⟨hwritable, hdisplay, hdisplay ▸ parse_display hwritable⟩

/-- The parts of a reading make a filter that can be displayed and read again, unless there is only
white space on one side of the symbol. -/
theorem Reading.IsPreferred.isWritable_iff {expression : String} {r : Reading expression}
    (h : r.IsPreferred) {f : SpecFilter} (hname : f.name.toList = r.name)
    (hvalue : f.value.toList = r.value) :
    f.IsWritable ↔ r.front.all isBlank = false ∧ r.back.all isBlank = false := by
  rw [← h.isTidy_name, ← h.isTidy_value, ← hname, ← hvalue]
  constructor
  · intro hwritable
    exact ⟨hwritable.name, hwritable.value⟩
  · rintro ⟨htidyName, htidyValue⟩
    refine ⟨htidyName, fun c hc => ?_, htidyValue, hvalue ▸ r.line⟩
    rw [hname] at hc
    exact r.free c (r.padded_name.isInfix.subset hc)

/-- An expression is refused if it has no reading, and for its operator if it can be read with a
symbol that is none. Any other one is read with the longest possible symbol, and its name and its
value are not blank exactly if there is something visible on both sides of the symbol. -/
theorem parse_exact (expression : String) :
    (∀ f, parse expression = .ok f → ∃ r : Reading expression,
      f.name.toList = r.name ∧ f.operator.symbol = r.symbol ∧ f.value.toList = r.value ∧
      (∀ other : Reading expression, other.symbol.length ≤ r.symbol.length) ∧
      (f.IsWritable ↔ r.front.all isBlank = false ∧ r.back.all isBlank = false)) ∧
    (∀ symbol, parse expression = .error (.invalidOperator symbol) ↔
      (symbol = "!=" ∨ symbol = "==") ∧ ∃ r : Reading expression, r.symbol = symbol) ∧
    ∀ text, parse expression = .error (.invalidExpression text) ↔
      text = expression ∧ IsEmpty (Reading expression) := by
  rcases parse_cases expression with ⟨hnone, hparse⟩ | ⟨r, hr, hparse⟩
  · rw [hparse]
    refine ⟨nofun, fun symbol => ?_, fun text => ?_⟩
    · exact iff_of_false nofun fun ⟨_, other, _⟩ => hnone.elim other
    · rw [Except.error.injEq, FilterError.invalidExpression.injEq, eq_comm]
      exact (and_iff_left hnone).symm
  · have hsome : ¬ IsEmpty (Reading expression) := fun hnone => hnone.elim r
    rcases symbol_cases r.known with ⟨operator, hoperator⟩ | hrefused
    · rw [← hoperator, ofSymbol_symbol] at hparse
      rw [hparse]
      refine ⟨?_, fun symbol => ?_, fun text => ?_⟩
      · rintro f hf
        obtain rfl := Except.ok.inj hf
        have hname : (String.ofList r.name).toList = r.name := String.toList_ofList
        have hvalue : (String.ofList r.value).toList = r.value := String.toList_ofList
        exact ⟨r, hname, hoperator, hvalue, hr.longest, hr.isWritable_iff hname hvalue⟩
      · refine iff_of_false nofun ?_
        rintro ⟨hrefused, other, rfl⟩
        have hsymbol := hr.symbol_eq_of_refused other hrefused
        rw [← hsymbol, ← hoperator] at hrefused
        exact symbol_not_refused operator hrefused
      · exact iff_of_false nofun fun h => hsome h.2
    · rw [ofSymbol_refused hrefused] at hparse
      rw [hparse]
      refine ⟨nofun, fun symbol => ?_, fun text => ?_⟩
      · rw [Except.error.injEq, FilterError.invalidOperator.injEq]
        constructor
        · rintro rfl
          exact ⟨hrefused, r, rfl⟩
        · rintro ⟨hrefused, other, rfl⟩
          exact hr.symbol_eq_of_refused other hrefused
      · exact iff_of_false nofun fun h => hsome h.2

/-- With nothing visible in front of the symbol, the white space there is taken for a name. -/
theorem parse_blankName :
    parse " =5" = .ok ⟨" ", .eq, "5"⟩ ∧ " ".toList.all isBlank = true ∧
      ¬ (⟨" ", .eq, "5"⟩ : SpecFilter).IsWritable := by
  refine ⟨by rfl, by decide, fun h => ?_⟩
  exact Bool.eq_false_iff.mp h.name.not_all_isBlank (by decide)

end PartSearch.SpecFilter
