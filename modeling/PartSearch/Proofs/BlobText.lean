import PartSearch.Catalog.Blob
import PartSearch.Proofs.LetterCase

/-!
# Where an attribute stands in a blob

A blob holds the names and values of attributes between quotes, with the quotes and backslashes of
the texts themselves escaped. A text between quotes is therefore `Sealed`: it ends at its own quote
and at no other. From this `shows_iff` finds out what it means that a blob contains `"name", "start`
for a plain name: some attribute has a name that ends like this, and what follows the quote before
its value starts like that.
-/

namespace PartSearch.Json

open Text

/-- A text as it stands between the quotes. -/
def escapeText (cs : List Char) : List Char := cs.flatMap escapeChar

@[simp]
theorem escapeText_nil : escapeText [] = [] := rfl

@[simp]
theorem escapeText_cons (c : Char) (cs : List Char) :
    escapeText (c :: cs) = escapeChar c ++ escapeText cs := rfl

theorem quote_eq (cs : List Char) : quote cs = '"' :: escapeText cs ++ ['"'] := rfl

def IsPlain (cs : List Char) : Prop := ∀ c ∈ cs, c ≠ '"' ∧ c ≠ '\\' ∧ 32 ≤ c.toNat

instance (cs : List Char) : Decidable (IsPlain cs) :=
  List.decidableBAll (fun c => c ≠ '"' ∧ c ≠ '\\' ∧ 32 ≤ c.toNat) cs

theorem IsPlain.not_mem {cs : List Char} (h : IsPlain cs) : '"' ∉ cs :=
  fun hmem => (h '"' hmem).1 rfl

theorem escapeChar_of_plain {c : Char} (hquote : c ≠ '"') (hslash : c ≠ '\\')
    (hcontrol : 32 ≤ c.toNat) : escapeChar c = [c] := by
  have hcode : ∀ d : Char, d.toNat < 32 → c ≠ d := by
    rintro d hd rfl
    exact absurd hd (Nat.not_lt.mpr hcontrol)
  rw [escapeChar, quoteMark, if_neg hquote, if_neg hslash, if_neg (hcode _ (by decide)),
    if_neg (hcode _ (by decide)), if_neg (hcode _ (by decide)), if_neg (hcode _ (by decide)),
    if_neg (hcode _ (by decide)), if_neg (Nat.not_lt.mpr hcontrol)]

theorem escapeText_of_isPlain {cs : List Char} (h : IsPlain cs) : escapeText cs = cs := by
  induction cs with
  | nil => rfl
  | cons c cs ih =>
      obtain ⟨⟨hquote, hslash, hcontrol⟩, hrest⟩ := List.forall_mem_cons.mp h
      rw [escapeText_cons, escapeChar_of_plain hquote hslash hcontrol, ih hrest]
      rfl

/-! ### Sealed texts -/

/-- Every quote of the text stands behind a backslash of its own, and no backslash is left at the
end to take the next quote. -/
inductive Sealed : List Char → Prop where
  | nil : Sealed []
  | char {c : Char} {cs : List Char} (hquote : c ≠ '"') (hslash : c ≠ '\\') (h : Sealed cs) :
      Sealed (c :: cs)
  | escaped (c : Char) {cs : List Char} (h : Sealed cs) : Sealed ('\\' :: c :: cs)

theorem Sealed.append {cs ds : List Char} (hcs : Sealed cs) (hds : Sealed ds) :
    Sealed (cs ++ ds) := by
  induction hcs with
  | nil => exact hds
  | char hquote hslash _ ih => exact .char hquote hslash ih
  | escaped c _ ih => exact .escaped c ih

theorem sealed_of_forall {cs : List Char} (h : ∀ c ∈ cs, c ≠ '"' ∧ c ≠ '\\') : Sealed cs := by
  induction cs with
  | nil => exact .nil
  | cons c cs ih =>
      obtain ⟨⟨hquote, hslash⟩, hrest⟩ := List.forall_mem_cons.mp h
      exact .char hquote hslash (ih hrest)

theorem hexDigits_ne (n : Nat) (hn : n < 32) :
    ∀ c ∈ padZeros 4 (Nat.toDigits 16 n), c ≠ '"' ∧ c ≠ '\\' := by
  have htable : ∀ n < 32, ((padZeros 4 (Nat.toDigits 16 n)).all fun c =>
      c ≠ '"' ∧ c ≠ '\\') = true := by decide
  intro c hc
  exact of_decide_eq_true (List.all_eq_true.mp (htable n hn) c hc)

theorem sealed_escapeChar (c : Char) : Sealed (escapeChar c) := by
  unfold escapeChar
  by_cases hquote : c = quoteMark
  · rw [if_pos hquote]
    exact .escaped _ .nil
  rw [if_neg hquote]
  by_cases hslash : c = '\\'
  · rw [if_pos hslash]
    exact .escaped _ .nil
  rw [if_neg hslash]
  split
  · exact .escaped _ .nil
  split
  · exact .escaped _ .nil
  split
  · exact .escaped _ .nil
  split
  · exact .escaped _ .nil
  split
  · exact .escaped _ .nil
  by_cases hcontrol : c.toNat < 32
  · rw [if_pos hcontrol]
    exact .escaped 'u' (sealed_of_forall (hexDigits_ne c.toNat hcontrol))
  · rw [if_neg hcontrol]
    exact .char hquote hslash .nil

/-- A text between quotes ends at its own quote. -/
theorem sealed_escapeText (cs : List Char) : Sealed (escapeText cs) := by
  induction cs with
  | nil => exact .nil
  | cons c cs ih => exact (sealed_escapeChar c).append ih

theorem Sealed.asciiLower {cs : List Char} (h : Sealed cs) : Sealed (asciiLower cs) := by
  induction h with
  | nil => exact .nil
  | char hquote hslash _ ih =>
      refine .char ?_ ?_ ih
      · rwa [Ne, toLower_eq_iff (by decide)]
      · rwa [Ne, toLower_eq_iff (by decide)]
  | escaped c _ ih => exact .escaped c.toLower ih

/-- A quote that no backslash stands before, in a sealed text with its closing quote, is the closing
quote or comes after it. -/
theorem Sealed.closing {text : List Char} (h : Sealed text) {before rest after : List Char}
    (heq : before ++ '"' :: rest = text ++ '"' :: after) (hbefore : ¬ ['\\'] <:+ before) :
    before = text ∧ rest = after ∨
      ∃ between, before = text ++ '"' :: between ∧ between ++ '"' :: rest = after := by
  induction h generalizing before with
  | nil =>
      cases before with
      | nil => exact Or.inl ⟨rfl, (List.cons.inj heq).2⟩
      | cons b before =>
          obtain ⟨rfl, hrest⟩ := List.cons.inj heq
          exact Or.inr ⟨before, rfl, hrest⟩
  | @char c cs hquote hslash _ ih =>
      cases before with
      | nil => exact absurd (List.cons.inj heq).1.symm hquote
      | cons b before =>
          obtain ⟨rfl, hrest⟩ := List.cons.inj heq
          have hend : ¬ ['\\'] <:+ before := fun hlast =>
            hbefore (hlast.trans (List.suffix_cons b _))
          rcases ih hrest hend with ⟨rfl, hafter⟩ | ⟨between, rfl, hafter⟩
          · exact Or.inl ⟨rfl, hafter⟩
          · exact Or.inr ⟨between, rfl, hafter⟩
  | @escaped c cs _ ih =>
      cases before with
      | nil => exact absurd (List.cons.inj heq).1 (by decide)
      | cons b before =>
          obtain ⟨rfl, hrest⟩ := List.cons.inj heq
          cases before with
          | nil => exact absurd (List.suffix_refl _) hbefore
          | cons d before =>
              obtain ⟨rfl, htail⟩ := List.cons.inj hrest
              have hend : ¬ ['\\'] <:+ before := fun hlast =>
                hbefore ((hlast.trans (List.suffix_cons d _)).trans (List.suffix_cons _ _))
              rcases ih htail hend with ⟨rfl, hafter⟩ | ⟨between, rfl, hafter⟩
              · exact Or.inl ⟨rfl, hafter⟩
              · exact Or.inr ⟨between, rfl, hafter⟩

end PartSearch.Json

namespace PartSearch.Attributes

open Json Text

/-! ### The rendered list -/

/-- What follows the closing quote of a value when these attributes come next. -/
def following : Attributes → List Char
  | [] => [']', ']']
  | pair :: pairs =>
      [']', ',', ' ', '['] ++ '"' :: (escapeText pair.1.toList ++ '"' :: ([',', ' '] ++ '"' ::
        (escapeText pair.2.toList ++ '"' :: following pairs)))

/-- What follows the opening quote of the name of an attribute. -/
def reading (pair : String × String) (pairs : Attributes) : List Char :=
  escapeText pair.1.toList ++ '"' :: ([',', ' '] ++ '"' ::
    (escapeText pair.2.toList ++ '"' :: following pairs))

theorem following_cons (pair : String × String) (pairs : Attributes) :
    following (pair :: pairs) = [']', ',', ' ', '['] ++ '"' :: reading pair pairs := rfl

theorem joinWith_map_renderPair (pair : String × String) (pairs : Attributes) :
    joinWith [',', ' '] ((pair :: pairs).map renderPair) ++ [']'] =
      '[' :: '"' :: reading pair pairs := by
  induction pairs generalizing pair with
  | nil => simp [joinWith, renderPair, quote_eq, reading, following]
  | cons next pairs ih =>
      have hnext := ih next
      simp only [List.map_cons] at hnext ⊢
      rw [joinWith, List.append_assoc, hnext]
      · simp [renderPair, quote_eq, reading, following]
      · simp

theorem renderChars_cons (pair : String × String) (pairs : Attributes) :
    renderChars (pair :: pairs) = ['[', '['] ++ '"' :: reading pair pairs := by
  rw [renderChars, List.cons_append, joinWith_map_renderPair]
  rfl

theorem following_suffix_reading (pair : String × String) (pairs : Attributes) :
    following pairs <:+ reading pair pairs := by
  refine ⟨escapeText pair.1.toList ++ '"' :: ([',', ' '] ++ '"' ::
    (escapeText pair.2.toList ++ ['"'])), ?_⟩
  simp [reading]

theorem reading_suffix (lead : List Char) (pair : String × String) (pairs : Attributes) :
    reading pair pairs <:+ lead ++ '"' :: reading pair pairs :=
  (List.suffix_cons _ _).trans (List.suffix_append lead _)

theorem suffix_renderChars (before : Attributes) (pair : String × String) (after : Attributes) :
    '"' :: reading pair after <:+ renderChars (before ++ pair :: after) := by
  have hfollowing : ∀ before : Attributes,
      '"' :: reading pair after <:+ following (before ++ pair :: after) := by
    intro before
    induction before with
    | nil => exact List.suffix_append _ _
    | cons first before ih =>
        exact (ih.trans (following_suffix_reading _ _)).trans (reading_suffix _ first _)
  cases before with
  | nil =>
      rw [List.nil_append, renderChars_cons]
      exact List.suffix_append _ _
  | cons first before =>
      rw [List.cons_append, renderChars_cons]
      exact ((hfollowing before).trans (following_suffix_reading _ _)).trans
        (reading_suffix _ first _)

/-- The blob names every attribute that it has. -/
theorem name_infix_renderChars {pairs : Attributes} {pair : String × String}
    (hpair : pair ∈ pairs) :
    '"' :: escapeText pair.1.toList ++ ['"'] <:+: renderChars pairs := by
  obtain ⟨before, after, rfl⟩ := List.append_of_mem hpair
  refine List.IsInfix.trans ?_ (suffix_renderChars before pair after).isInfix
  rw [reading]
  exact List.IsPrefix.isInfix ⟨_, by simp only [List.cons_append, List.append_assoc]; rfl⟩

/-! ### Quotes around a plain name -/

/-- A stretch from a quote to a place without a quote in between lies within the last quotes. -/
theorem quoted_suffix (before : List Char) {name between : List Char} (hname : '"' ∉ name)
    (h : '"' :: name <:+ before ++ '"' :: between) : '"' :: name <:+ '"' :: between := by
  rcases Nat.le_total ('"' :: name).length ('"' :: between).length with hle | hle
  · exact List.suffix_of_suffix_length_le h (List.suffix_append _ _) hle
  · have hshort := List.suffix_of_suffix_length_le (List.suffix_append before _) h hle
    rcases List.suffix_cons_iff.mp hshort with heq | hlater
    · rw [heq]
    · exact absurd (hlater.subset List.mem_cons_self) hname

theorem not_backslash_suffix {name before : List Char} (hname : '\\' ∉ name)
    (h : '"' :: name <:+ '"' :: before) : ¬ ['\\'] <:+ before := by
  intro hlast
  have hend := List.suffix_of_suffix_length_le (hlast.trans (List.suffix_cons '"' before)) h
    (Nat.succ_le_succ (Nat.zero_le _))
  rcases List.mem_cons.mp (hend.subset List.mem_cons_self) with heq | hmem
  · exact absurd heq (by decide)
  · exact hname hmem

theorem eq_of_quoted_suffix {name text : List Char} (htext : '"' ∉ text)
    (h : '"' :: name <:+ '"' :: text) : name = text := by
  rcases List.suffix_cons_iff.mp h with heq | hlater
  · exact (List.cons.inj heq).2
  · exact absurd (hlater.subset List.mem_cons_self) htext

/-- Some attribute has a name that ends like this, at its own opening quote or at a quote inside
it, and what follows the opening quote of its value starts like this, up to case. -/
def Shows (pairs : Attributes) (name start : List Char) : Prop :=
  ∃ before pair after, pairs = before ++ pair :: after ∧
    '"' :: asciiLower name <:+ '"' :: asciiLower (escapeText pair.1.toList) ∧
    asciiLower start <+: asciiLower (escapeText pair.2.toList ++ '"' :: following after)

/-- A name that may stand before `", "` in a blob only as the name of an attribute: it is plain,
and it is none of the texts that stand between two quotes of a blob itself. -/
structure IsNameText (name : List Char) : Prop where
  plain : IsPlain name
  ne_comma : asciiLower name ≠ [',', ' ']
  ne_bracket : asciiLower name ≠ [']', ',', ' ', '[']

section Alignment

variable {name : List Char}

theorem IsNameText.quote_not_mem (hname : IsNameText name) : '"' ∉ asciiLower name := by
  rw [mem_asciiLower_iff (by decide)]
  exact hname.plain.not_mem

theorem IsNameText.slash_not_mem (hname : IsNameText name) : '\\' ∉ asciiLower name := by
  rw [mem_asciiLower_iff (by decide)]
  exact fun hmem => (hname.plain _ hmem).2.1 rfl

/-- What a place means where a quote, `, ` and another quote stand behind the name: they stand
behind the name of this attribute, or further on. -/
theorem reading_place (hname : IsNameText name) {pair : String × String} {pairs : Attributes}
    {before rest : List Char} (hbefore : '"' :: asciiLower name <:+ '"' :: before)
    (heq : before ++ '"' :: ([',', ' '] ++ '"' :: rest) = asciiLower (reading pair pairs)) :
    ('"' :: asciiLower name <:+ '"' :: asciiLower (escapeText pair.1.toList) ∧
        rest = asciiLower (escapeText pair.2.toList ++ '"' :: following pairs)) ∨
      ∃ between, '"' :: asciiLower name <:+ '"' :: between ∧
        between ++ '"' :: ([',', ' '] ++ '"' :: rest) = asciiLower (following pairs) := by
  have hquote := hname.quote_not_mem
  have hslash := hname.slash_not_mem
  have hparts : asciiLower (reading pair pairs) = asciiLower (escapeText pair.1.toList) ++ '"' ::
      ([',', ' '] ++ '"' :: (asciiLower (escapeText pair.2.toList) ++ '"' ::
        asciiLower (following pairs))) := by
    simp only [reading, asciiLower_append, asciiLower_cons]
    rfl
  rw [hparts] at heq
  rcases (sealed_escapeText pair.1.toList).asciiLower.closing heq
    (not_backslash_suffix hslash hbefore) with ⟨rfl, hrest⟩ | ⟨rest₁, rfl, hrest⟩
  · refine Or.inl ⟨hbefore, ?_⟩
    have htail := (List.cons.inj (List.append_cancel_left hrest)).2
    rw [htail, asciiLower_append, asciiLower_cons]
    rfl
  have hbefore₁ := quoted_suffix ('"' :: _) hquote hbefore
  have hcomma : Sealed [',', ' '] := sealed_of_forall (by simp)
  rcases hcomma.closing hrest (not_backslash_suffix hslash hbefore₁) with
    ⟨rfl, -⟩ | ⟨rest₂, rfl, hvalue⟩
  · exact absurd (eq_of_quoted_suffix (by decide) hbefore₁) hname.ne_comma
  have hbefore₂ := quoted_suffix ('"' :: _) hquote hbefore₁
  rcases (sealed_escapeText pair.2.toList).asciiLower.closing hvalue
    (not_backslash_suffix hslash hbefore₂) with ⟨rfl, hnext⟩ | ⟨rest₃, rfl, hnext⟩
  · cases pairs with
    | nil => simp [following] at hnext
    | cons next pairs => simp [following] at hnext
  · exact Or.inr ⟨rest₃, quoted_suffix ('"' :: _) hquote hbefore₂, hnext⟩

theorem following_place (hname : IsNameText name) {pairs : Attributes} {before rest : List Char}
    (hbefore : '"' :: asciiLower name <:+ '"' :: before)
    (heq : before ++ '"' :: ([',', ' '] ++ '"' :: rest) = asciiLower (following pairs)) :
    ∃ earlier pair later, pairs = earlier ++ pair :: later ∧
      '"' :: asciiLower name <:+ '"' :: asciiLower (escapeText pair.1.toList) ∧
      rest = asciiLower (escapeText pair.2.toList ++ '"' :: following later) := by
  induction pairs generalizing before with
  | nil =>
      have hmem : '"' ∈ asciiLower (following []) := by
        rw [← heq]
        exact List.mem_append_right before List.mem_cons_self
      exact absurd hmem (by decide)
  | cons pair pairs ih =>
      have hbracket : Sealed [']', ',', ' ', '['] := sealed_of_forall (by simp)
      rw [following_cons, asciiLower_append, asciiLower_cons] at heq
      rcases hbracket.closing heq (not_backslash_suffix hname.slash_not_mem hbefore) with
        ⟨rfl, -⟩ | ⟨between, rfl, hrest⟩
      · exact absurd (eq_of_quoted_suffix (by decide) hbefore) hname.ne_bracket
      have hbetween := quoted_suffix ('"' :: _) hname.quote_not_mem hbefore
      rcases reading_place hname hbetween hrest with ⟨hends, hvalue⟩ | ⟨further, hfurther, hlater⟩
      · exact ⟨[], pair, pairs, rfl, hends, hvalue⟩
      · obtain ⟨earlier, found, later, rfl, hfound⟩ := ih hfurther hlater
        exact ⟨pair :: earlier, found, later, rfl, hfound⟩

/-- A blob contains `"name", "start` up to case if one of its attributes shows it. -/
theorem shows_iff (hname : IsNameText name) {pairs : Attributes} {start : List Char} :
    asciiLower ('"' :: name ++ '"' :: ([',', ' '] ++ '"' :: start)) <:+:
      asciiLower (renderChars pairs) ↔ Shows pairs name start := by
  have hpiece : asciiLower ('"' :: name ++ '"' :: ([',', ' '] ++ '"' :: start)) =
      '"' :: asciiLower name ++ '"' :: ([',', ' '] ++ '"' :: asciiLower start) := by
    simp only [asciiLower_append, asciiLower_cons, List.cons_append]
    rfl
  rw [hpiece]
  constructor
  · rintro ⟨lead, rest, heq⟩
    have hplace : (lead ++ '"' :: asciiLower name) ++
        '"' :: ([',', ' '] ++ '"' :: (asciiLower start ++ rest)) =
          asciiLower (renderChars pairs) := by
      rw [← heq]
      simp only [List.append_assoc, List.cons_append]
    cases pairs with
    | nil =>
        have hmem : '"' ∈ asciiLower (renderChars []) := by
          rw [← hplace]
          exact List.mem_append_right _ List.mem_cons_self
        exact absurd hmem (by decide)
    | cons pair pairs =>
        have hends : '"' :: asciiLower name <:+ lead ++ '"' :: asciiLower name :=
          List.suffix_append _ _
        have hopen : Sealed ['[', '['] := sealed_of_forall (by simp)
        rw [renderChars_cons, asciiLower_append, asciiLower_cons] at hplace
        rcases hopen.closing hplace (not_backslash_suffix hname.slash_not_mem
          (hends.trans (List.suffix_cons _ _))) with ⟨hlead, -⟩ | ⟨between, hlead, hrest⟩
        · rw [hlead] at hends
          exact absurd (hends.subset List.mem_cons_self) (by decide)
        rw [hlead] at hends
        have hbetween := quoted_suffix _ hname.quote_not_mem hends
        rcases reading_place hname hbetween hrest with
          ⟨hfound, hvalue⟩ | ⟨further, hfurther, hlater⟩
        · exact ⟨[], pair, pairs, rfl, hfound, ⟨rest, hvalue⟩⟩
        · obtain ⟨earlier, found, later, rfl, hfound, hvalue⟩ :=
            following_place hname hfurther hlater
          exact ⟨pair :: earlier, found, later, rfl, hfound, ⟨rest, hvalue⟩⟩
  · rintro ⟨before, pair, after, rfl, ⟨lead, hends⟩, ⟨rest, hstart⟩⟩
    have hwhole := (suffix_renderChars before pair after).map Char.toLower
    refine List.IsInfix.trans ⟨lead, rest, ?_⟩ hwhole.isInfix
    calc
      lead ++ ('"' :: asciiLower name ++ '"' :: ([',', ' '] ++ '"' :: asciiLower start)) ++ rest =
          (lead ++ '"' :: asciiLower name) ++
            '"' :: ([',', ' '] ++ '"' :: (asciiLower start ++ rest)) := by
        simp only [List.append_assoc, List.cons_append]
      _ = ('"' :: asciiLower (escapeText pair.1.toList)) ++ '"' :: ([',', ' '] ++ '"' ::
            asciiLower (escapeText pair.2.toList ++ '"' :: following after)) := by
        rw [hends, hstart]
      _ = asciiLower ('"' :: reading pair after) := by
        simp only [reading, asciiLower_append, asciiLower_cons, List.cons_append]
        rfl

end Alignment

/-! ### Whole values between plain texts -/

/-- Texts without quotes that stand before the first quote of one text are the same. -/
theorem closed_prefix_iff {cs ds rest : List Char} (hcs : '"' ∉ cs) (hds : '"' ∉ ds) :
    cs ++ ['"'] <+: ds ++ '"' :: rest ↔ cs = ds := by
  constructor
  · rintro ⟨after, heq⟩
    have hcut : ∀ text after : List Char, '"' ∉ text →
        (text ++ '"' :: after).takeWhile (· ≠ '"') = text := by
      intro text after htext
      rw [List.takeWhile_append_of_pos fun c hc => decide_eq_true (ne_of_mem_of_not_mem hc htext)]
      simp
    calc
      cs = (cs ++ '"' :: after).takeWhile (· ≠ '"') := (hcut cs after hcs).symm
      _ = (ds ++ '"' :: rest).takeWhile (· ≠ '"') := by rw [← heq, List.append_assoc]; rfl
      _ = ds := hcut ds rest hds
  · rintro rfl
    exact ⟨rest, by rw [List.append_assoc]; rfl⟩

/-- Between plain texts, a name and a value with its closing quote show as the whole name and the
whole value of one attribute. -/
theorem shows_closed_iff {pairs : Attributes}
    (hpairs : ∀ pair ∈ pairs, IsPlain pair.1.toList ∧ IsPlain pair.2.toList)
    {name value : List Char} (hvalue : IsPlain value) :
    Shows pairs name (value ++ ['"']) ↔
      ∃ pair ∈ pairs, asciiLower pair.1.toList = asciiLower name ∧
        asciiLower pair.2.toList = asciiLower value := by
  have hfree {cs : List Char} (h : IsPlain cs) : '"' ∉ asciiLower cs :=
    fun hmem => h.not_mem ((mem_asciiLower_iff (by decide)).mp hmem)
  have hclosing (cs rest : List Char) :
      asciiLower (cs ++ '"' :: rest) = asciiLower cs ++ '"' :: asciiLower rest :=
    asciiLower_append cs ('"' :: rest)
  constructor
  · rintro ⟨before, pair, after, rfl, hends, hstart⟩
    obtain ⟨hfirst, hsecond⟩ := hpairs pair (by simp)
    rw [escapeText_of_isPlain hfirst] at hends
    rw [escapeText_of_isPlain hsecond, hclosing, hclosing] at hstart
    refine ⟨pair, by simp, (eq_of_quoted_suffix (hfree hfirst) hends).symm, ?_⟩
    exact ((closed_prefix_iff (hfree hvalue) (hfree hsecond)).mp hstart).symm
  · rintro ⟨pair, hpair, hname, hsame⟩
    obtain ⟨hfirst, hsecond⟩ := hpairs pair hpair
    obtain ⟨before, after, rfl⟩ := List.append_of_mem hpair
    refine ⟨before, pair, after, rfl, ?_, ?_⟩
    · rw [escapeText_of_isPlain hfirst, hname]
    · rw [escapeText_of_isPlain hsecond, hclosing, hclosing]
      exact (closed_prefix_iff (hfree hvalue) (hfree hsecond)).mpr hsame.symm

end PartSearch.Attributes
