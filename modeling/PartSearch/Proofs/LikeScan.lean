import PartSearch.Proofs.LetterCase
import PartSearch.Store.Like

/-!
# The scan behind LIKE

A text is matched in rounds. A scan remembers the last `%` only, and when it gets stuck it tries the
tokens behind that `%` one character further on. Nothing is lost by forgetting the earlier ones: the
tokens between two of them read a fixed number of characters, so an earlier `%` that took more
characters would only leave less text for the last one (`Linked.exists_suffix`). So every round
keeps what the scan may still find, `Linked.accepts_iff_of_leads`, and its answer is the declarative
meaning of the pattern, `isMatch_iff_matches`.
-/

namespace PartSearch.Like

open Text

/-- The whole text fits the tokens: `%` stands for any run of characters, `_` for one character,
and a literal for itself in either case. -/
inductive Fits : List Token → List Char → Prop where
  | nil : Fits [] []
  | anyRun {ts : List Token} (run : List Char) {cs : List Char} (h : Fits ts cs) :
      Fits (.anyRun :: ts) (run ++ cs)
  | anyChar {ts : List Token} (c : Char) {cs : List Char} (h : Fits ts cs) :
      Fits (.anyChar :: ts) (c :: cs)
  | literal {ts : List Token} {a c : Char} {cs : List Char} (hletter : sameLetter a c = true)
      (h : Fits ts cs) : Fits (.literal a :: ts) (c :: cs)

theorem fits_nil_iff {cs : List Char} : Fits [] cs ↔ cs = [] := by
  constructor
  · intro h
    cases h
    rfl
  · rintro rfl
    exact .nil

theorem fits_anyRun_iff {ts : List Token} {cs : List Char} :
    Fits (.anyRun :: ts) cs ↔ ∃ after, after <:+ cs ∧ Fits ts after := by
  constructor
  · intro h
    cases h with
    | anyRun run h => exact ⟨_, List.suffix_append _ _, h⟩
  · rintro ⟨after, ⟨run, rfl⟩, h⟩
    exact .anyRun run h

theorem fits_anyChar_iff {ts : List Token} {c : Char} {cs : List Char} :
    Fits (.anyChar :: ts) (c :: cs) ↔ Fits ts cs := by
  constructor
  · intro h
    cases h with
    | anyChar _ h => exact h
  · exact .anyChar c

theorem fits_literal_iff {ts : List Token} {a c : Char} {cs : List Char} :
    Fits (.literal a :: ts) (c :: cs) ↔ sameLetter a c = true ∧ Fits ts cs := by
  constructor
  · intro h
    cases h with
    | literal hletter h => exact ⟨hletter, h⟩
  · rintro ⟨hletter, h⟩
    exact .literal hletter h

theorem not_fits_cons_nil {t : Token} {ts : List Token} (ht : t ≠ .anyRun) :
    ¬ Fits (t :: ts) [] := by
  intro h
  cases t with
  | anyRun => exact ht rfl
  | anyChar => cases h
  | literal a => cases h

theorem fits_cons_iff {t : Token} (ht : t ≠ .anyRun) {ts : List Token} {c : Char}
    {cs : List Char} : Fits (t :: ts) (c :: cs) ↔ t.reads c = true ∧ Fits ts cs := by
  cases t with
  | anyRun => exact absurd rfl ht
  | anyChar => simp [fits_anyChar_iff, Token.reads]
  | literal a => exact fits_literal_iff

/-- Only `%` fits the empty text. -/
theorem fits_empty_iff {ts : List Token} : Fits ts [] ↔ (ts.all (· = .anyRun)) = true := by
  induction ts with
  | nil => simp [fits_nil_iff]
  | cons t ts ih =>
      by_cases ht : t = .anyRun
      · subst ht
        simp [fits_anyRun_iff, ih]
      · simp [not_fits_cons_nil ht, ht]

/-- Tokens other than `%` read one character each. -/
theorem Fits.drop {front ts : List Token} {cs : List Char} (hfront : .anyRun ∉ front)
    (h : Fits (front ++ ts) cs) : front.length ≤ cs.length ∧ Fits ts (cs.drop front.length) := by
  induction front generalizing cs with
  | nil => exact ⟨Nat.zero_le _, h⟩
  | cons t front ih =>
      rw [List.mem_cons, not_or] at hfront
      have ht : t ≠ .anyRun := fun heq => hfront.1 heq.symm
      cases cs with
      | nil => exact absurd h (not_fits_cons_nil ht)
      | cons c cs =>
          obtain ⟨-, hrest⟩ := (fits_cons_iff ht).mp h
          obtain ⟨hlength, hdrop⟩ := ih hfront.2 hrest
          exact ⟨Nat.succ_le_succ hlength, hdrop⟩

namespace Scan

/-! ### One round -/

/-- What a round leads to: at the end of the text the tokens that are left decide; a `%` is passed
and remembered; a token reads a character; and where the tokens do not fit, those behind the last
`%` are tried one character further on, if there is one. -/
inductive Leads : Scan → Round → Prop where
  | finish (pending : List Token) (retry : Option (List Token × List Char)) :
      Leads ⟨pending, [], retry⟩ (.answer (pending.all (· = .anyRun)))
  | remember (ts : List Token) (c : Char) (cs : List Char)
      (retry : Option (List Token × List Char)) :
      Leads ⟨.anyRun :: ts, c :: cs, retry⟩ (.next ⟨ts, c :: cs, some (ts, c :: cs)⟩)
  | read {t : Token} {c : Char} (hreads : t.reads c = true) (ts : List Token) (cs : List Char)
      (retry : Option (List Token × List Char)) :
      Leads ⟨t :: ts, c :: cs, retry⟩ (.next ⟨ts, cs, retry⟩)
  | goBack {pending : List Token} {text : List Char} (hstuck : ¬ Fits pending text)
      (ts : List Token) (c : Char) (cs : List Char) :
      Leads ⟨pending, text, some (ts, c :: cs)⟩ (.next ⟨ts, cs, some (ts, cs)⟩)
  | giveUp {pending : List Token} {text : List Char} (hstuck : ¬ Fits pending text)
      {retry : Option (List Token × List Char)} (hretry : ∀ ts c cs, retry ≠ some (ts, c :: cs)) :
      Leads ⟨pending, text, retry⟩ (.answer false)

theorem goBack_leads {s : Scan} (hstuck : ¬ Fits s.pending s.text) : Leads s s.goBack := by
  obtain ⟨pending, text, retry⟩ := s
  rcases retry with - | ⟨ts, - | ⟨c, cs⟩⟩
  · exact .giveUp hstuck nofun
  · exact .giveUp hstuck (by simp)
  · exact .goBack hstuck ts c cs

theorem round_leads (s : Scan) : Leads s s.round := by
  obtain ⟨pending, text, retry⟩ := s
  cases text with
  | nil => exact .finish pending retry
  | cons c cs =>
      cases pending with
      | nil => exact goBack_leads (by simp [fits_nil_iff])
      | cons t ts =>
          by_cases hrun : t = .anyRun
          · subst hrun
            exact .remember ts c cs retry
          · have hround : round ⟨t :: ts, c :: cs, retry⟩ =
                if t.reads c then .next ⟨ts, cs, retry⟩ else goBack ⟨t :: ts, c :: cs, retry⟩ := by
              cases t with
              | anyRun => exact absurd rfl hrun
              | anyChar => rfl
              | literal a => rfl
            rw [hround]
            by_cases hreads : t.reads c = true
            · rw [if_pos hreads]
              exact .read hreads ts cs retry
            · rw [if_neg hreads]
              exact goBack_leads fun hfits => hreads ((fits_cons_iff hrun).mp hfits).1

/-! ### What a scan may still find -/

/-- Behind the last `%` every token up to the place of the scan has read one character. -/
def Linked (s : Scan) : Prop :=
  ∀ ts cs, s.retry = some (ts, cs) → ∃ front read, ts = front ++ s.pending ∧
    cs = read ++ s.text ∧ front.length = read.length ∧ Token.anyRun ∉ front

/-- The text fits from here on, or the tokens behind the last `%` fit further on. -/
def Accepts (s : Scan) : Prop :=
  Fits s.pending s.text ∨
    ∃ ts cs, s.retry = some (ts, cs) ∧ ∃ after, after <:+ cs.tail ∧ Fits ts after

/-- What the tokens behind the last `%` fit further on leaves a later part of the text for the
tokens that are pending. -/
theorem Linked.exists_suffix {s : Scan} (h : s.Linked) {ts : List Token} {cs after : List Char}
    (hretry : s.retry = some (ts, cs)) (hafter : after <:+ cs.tail) (hfits : Fits ts after) :
    ∃ rest, rest <:+ s.text ∧ Fits s.pending rest := by
  obtain ⟨front, read, rfl, rfl, hlength, hfront⟩ := h ts cs hretry
  obtain ⟨hread, hrest⟩ := hfits.drop hfront
  have hwithin : after.drop front.length <:+ read ++ s.text :=
    (List.drop_suffix _ _).trans (hafter.trans (List.tail_suffix _))
  have hshorter : (after.drop front.length).length ≤ s.text.length := by
    have htail := hafter.length_le
    rw [List.length_tail, List.length_append] at htail
    rw [List.length_drop]
    omega
  exact ⟨_, List.suffix_of_suffix_length_le hwithin (List.suffix_append _ _) hshorter, hrest⟩

theorem Linked.of_leads {s s' : Scan} (h : s.Linked) (hleads : Leads s (.next s')) :
    s'.Linked := by
  cases hleads with
  | remember ts c cs retry =>
      rintro _ _ ⟨⟩
      exact ⟨[], [], rfl, rfl, rfl, List.not_mem_nil⟩
  | @read t c hreads ts cs retry =>
      intro ts' cs' hretry
      obtain ⟨front, read, rfl, rfl, hlength, hfront⟩ := h ts' cs' hretry
      refine ⟨front ++ [t], read ++ [c], by simp, by simp, by simp [hlength], ?_⟩
      rintro hmem
      rcases List.mem_append.mp hmem with hmem | hmem
      · exact hfront hmem
      · rw [← List.mem_singleton.mp hmem] at hreads
        cases hreads
  | goBack hstuck ts c cs =>
      rintro _ _ ⟨⟩
      exact ⟨[], [], rfl, rfl, rfl, List.not_mem_nil⟩

/-- A round that goes on neither loses nor adds a way to fit. -/
theorem Linked.accepts_iff_of_leads {s s' : Scan} (h : s.Linked) (hleads : Leads s (.next s')) :
    s'.Accepts ↔ s.Accepts := by
  cases hleads with
  | remember ts c cs retry =>
      have hhere : Accepts ⟨ts, c :: cs, some (ts, c :: cs)⟩ ↔ Fits (.anyRun :: ts) (c :: cs) := by
        rw [fits_anyRun_iff]
        simp [Accepts, List.suffix_cons_iff, or_and_right, exists_or]
      rw [hhere]
      constructor
      · exact Or.inl
      · rintro (hfits | ⟨ts', cs', hretry, after, hafter, hfits⟩)
        · exact hfits
        · obtain ⟨rest, hrest, hfits⟩ := h.exists_suffix hretry hafter hfits
          obtain ⟨later, hlater, hfits⟩ := fits_anyRun_iff.mp hfits
          exact fits_anyRun_iff.mpr ⟨later, hlater.trans hrest, hfits⟩
  | @read t c hreads ts cs retry =>
      have ht : t ≠ .anyRun := by
        rintro rfl
        cases hreads
      simp only [Accepts, fits_cons_iff ht, hreads, true_and]
  | goBack hstuck ts c cs =>
      simp only [Accepts, Option.some.injEq, Prod.mk.injEq, hstuck, false_or]
      constructor
      · rintro (hfits | ⟨_, _, ⟨rfl, rfl⟩, after, hafter, hfits⟩)
        · exact ⟨ts, c :: cs, ⟨rfl, rfl⟩, cs, List.suffix_refl _, hfits⟩
        · exact ⟨ts, c :: cs, ⟨rfl, rfl⟩, after, hafter.trans (List.tail_suffix _), hfits⟩
      · rintro ⟨_, _, ⟨rfl, rfl⟩, after, hafter, hfits⟩
        cases cs with
        | nil => exact Or.inl (List.suffix_nil.mp hafter ▸ hfits)
        | cons d ds =>
            rcases List.suffix_cons_iff.mp hafter with heq | hlater
            · exact Or.inl (heq ▸ hfits)
            · exact Or.inr ⟨ts, d :: ds, ⟨rfl, rfl⟩, after, hlater, hfits⟩

/-- The last round answers whether there is a way to fit. -/
theorem Linked.answer_iff_of_leads {s : Scan} {found : Bool} (h : s.Linked)
    (hleads : Leads s (.answer found)) : found = true ↔ s.Accepts := by
  cases hleads with
  | finish pending retry =>
      rw [← fits_empty_iff]
      constructor
      · exact Or.inl
      · rintro (hfits | ⟨ts, cs, hretry, after, hafter, hfits⟩)
        · exact hfits
        · obtain ⟨rest, hrest, hfits⟩ := h.exists_suffix hretry hafter hfits
          exact List.suffix_nil.mp hrest ▸ hfits
  | @giveUp pending text hstuck retry hretry =>
      refine iff_of_false Bool.false_ne_true ?_
      rintro (hfits | ⟨ts, cs, hsome, after, hafter, hfits⟩)
      · exact hstuck hfits
      · cases cs with
        | nil =>
            obtain ⟨front, read, -, hnil, -⟩ := h ts [] hsome
            obtain ⟨rest, hrest, hfits⟩ := h.exists_suffix hsome hafter hfits
            obtain rfl : text = [] := (List.append_eq_nil_iff.mp hnil.symm).2
            exact hstuck (List.suffix_nil.mp hrest ▸ hfits)
        | cons c cs => exact hretry ts c cs hsome

/-! ### The whole scan -/

theorem run_eq (s : Scan) :
    s.run = match s.round with
      | .answer found => found
      | .next s' => s'.run := by
  rw [run]
  split <;> simp [*]

theorem Linked.run_eq_true_iff {s : Scan} (h : s.Linked) : s.run = true ↔ s.Accepts := by
  have hleads := s.round_leads
  rw [run_eq]
  cases hround : s.round with
  | answer found =>
      rw [hround] at hleads
      exact h.answer_iff_of_leads hleads
  | next s' =>
      rw [hround] at hleads
      exact (h.of_leads hleads).run_eq_true_iff.trans (h.accepts_iff_of_leads hleads)
termination_by s.roundsLeft
decreasing_by exact roundsLeft_lt hround

/-- Where a scan is after some rounds, or its answer if it has one by then. -/
def after : Nat → Scan → Round
  | 0, s => .next s
  | rounds + 1, s =>
    match s.round with
    | .answer found => .answer found
    | .next s' => after rounds s'

/-- The scan ends: it has its answer once the rounds that its measure allows are over. -/
theorem after_eq_answer {rounds : Nat} {s : Scan} (h : s.roundsLeft < rounds) :
    s.after rounds = .answer s.run := by
  induction rounds generalizing s with
  | zero => exact absurd h (Nat.not_lt_zero _)
  | succ rounds ih =>
      rw [after, run_eq]
      cases hround : s.round with
      | answer found => rfl
      | next s' => exact ih (lt_of_lt_of_le (roundsLeft_lt hround) (Nat.le_of_lt_succ h))

end Scan

theorem matchTokens_eq_true_iff {ts : List Token} {cs : List Char} :
    matchTokens ts cs = true ↔ Fits ts cs := by
  have hlinked : Scan.Linked { pending := ts, text := cs } := nofun
  rw [matchTokens, hlinked.run_eq_true_iff]
  simp [Scan.Accepts]

/-! ### Patterns -/

def IsSpecial (c : Char) : Prop := c = '\\' ∨ c = '%' ∨ c = '_'

instance (c : Char) : Decidable (IsSpecial c) := inferInstanceAs (Decidable (_ ∨ _))

theorem tokens_cons_of_not_isSpecial {c : Char} (h : ¬ IsSpecial c) (cs : List Char) :
    tokens (c :: cs) = .literal c :: tokens cs := by
  simp only [IsSpecial, not_or] at h
  rw [tokens]
  · exact h.2.1
  · exact h.2.2
  · exact fun hc _ => h.1 hc
  · exact fun _ _ hc _ => h.1 hc

/-- Induction over a pattern, with one case for each way in which a token is written. -/
@[elab_as_elim]
theorem pattern_induction {motive : List Char → Prop} (ps : List Char) (nil : motive [])
    (anyRun : ∀ ps, motive ps → motive ('%' :: ps))
    (anyChar : ∀ ps, motive ps → motive ('_' :: ps))
    (lastSlash : motive ['\\'])
    (escaped : ∀ a ps, motive ps → motive ('\\' :: a :: ps))
    (plain : ∀ a ps, ¬ IsSpecial a → motive ps → motive (a :: ps)) : motive ps := by
  induction ps using tokens.induct with
  | case1 => exact nil
  | case2 ps ih => exact anyRun ps ih
  | case3 ps ih => exact anyChar ps ih
  | case4 => exact lastSlash
  | case5 a ps ih => exact escaped a ps ih
  | case6 a ps hrun hchar hlast hslash ih =>
      refine plain a ps ?_ ih
      rintro (ha | ha | ha)
      · cases ps with
        | nil => exact hlast ha rfl
        | cons d ds => exact hslash d ds ha rfl
      · exact hrun ha
      · exact hchar ha

theorem length_tokens_le (ps : List Char) : (tokens ps).length ≤ ps.length := by
  induction ps using pattern_induction with
  | nil => exact le_rfl
  | anyRun ps ih => exact Nat.succ_le_succ ih
  | anyChar ps ih => exact Nat.succ_le_succ ih
  | lastSlash => exact le_rfl
  | escaped a ps ih => exact Nat.succ_le_succ (ih.trans (Nat.le_succ _))
  | plain a ps hplain ih =>
      rw [tokens_cons_of_not_isSpecial hplain]
      exact Nat.succ_le_succ ih

/-- The whole text matches the characters of a pattern: `%` stands for any run of characters, `_`
for one character, a backslash makes the next character literal and stands for itself at the end,
and any other character is literal. Literal characters are compared up to the case of ASCII
letters. -/
inductive Matches : List Char → List Char → Prop where
  | nil : Matches [] []
  | anyRun {ps : List Char} (run : List Char) {cs : List Char} (h : Matches ps cs) :
      Matches ('%' :: ps) (run ++ cs)
  | anyChar {ps : List Char} (c : Char) {cs : List Char} (h : Matches ps cs) :
      Matches ('_' :: ps) (c :: cs)
  | escaped {ps : List Char} {a c : Char} {cs : List Char} (hletter : sameLetter a c = true)
      (h : Matches ps cs) : Matches ('\\' :: a :: ps) (c :: cs)
  | lastSlash : Matches ['\\'] ['\\']
  | plain {ps : List Char} {a c : Char} {cs : List Char} (hplain : ¬ IsSpecial a)
      (hletter : sameLetter a c = true) (h : Matches ps cs) : Matches (a :: ps) (c :: cs)

theorem fits_of_matches {ps cs : List Char} (h : Matches ps cs) : Fits (tokens ps) cs := by
  induction h with
  | nil => exact .nil
  | anyRun run _ ih => exact .anyRun run ih
  | anyChar c _ ih => exact .anyChar c ih
  | escaped hletter _ ih => exact .literal hletter ih
  | lastSlash => exact .literal (by decide) .nil
  | @plain ps a c cs hplain hletter _ ih =>
      rw [tokens_cons_of_not_isSpecial hplain]
      exact .literal hletter ih

theorem matches_of_fits {ps cs : List Char} (h : Fits (tokens ps) cs) : Matches ps cs := by
  induction ps using pattern_induction generalizing cs with
  | nil =>
      rw [fits_nil_iff.mp h]
      exact .nil
  | anyRun ps ih =>
      obtain ⟨after, ⟨run, rfl⟩, hafter⟩ := fits_anyRun_iff.mp h
      exact .anyRun run (ih hafter)
  | anyChar ps ih =>
      cases h with
      | anyChar c h => exact .anyChar c (ih h)
  | lastSlash =>
      cases h with
      | @literal _ _ c _ hletter h =>
          have hslash : c.toLower = '\\' := (of_decide_eq_true hletter).symm
          rw [fits_nil_iff.mp h, (toLower_eq_iff (by decide)).mp hslash]
          exact .lastSlash
  | escaped a ps ih =>
      cases h with
      | literal hletter h => exact .escaped hletter (ih h)
  | plain a ps hplain ih =>
      rw [tokens_cons_of_not_isSpecial hplain] at h
      cases h with
      | literal hletter h => exact .plain hplain hletter (ih h)

/-- The place where the scan of a text starts. -/
def Scan.ofPattern (pattern text : String) : Scan :=
  { pending := tokens pattern.toList, text := text.toList }

/-- The scan of any text for any pattern ends, after no more rounds than the pattern and the text
allow, and it finds exactly the texts that match the pattern. -/
theorem isMatch_iff_matches (pattern text : String) :
    (∃ rounds ≤ (pattern.length + 1) * (text.length + 1),
      (Scan.ofPattern pattern text).after rounds = .answer (isMatch pattern text)) ∧
    (isMatch pattern text = true ↔ Matches pattern.toList text.toList) := by
  constructor
  · refine ⟨_, le_rfl, Scan.after_eq_answer ?_⟩
    have htokens := length_tokens_le pattern.toList
    have hmul : ((tokens pattern.toList).length + 1) * text.length ≤
        (pattern.length + 1) * text.length :=
      Nat.mul_le_mul_right _ (Nat.succ_le_succ htokens)
    simp only [Scan.roundsLeft, Scan.ofPattern, Option.getD_none, Nat.max_self, Nat.mul_succ]
    exact Nat.add_lt_add_of_le_of_lt hmul (Nat.lt_succ_of_le htokens)
  · rw [isMatch, matchTokens_eq_true_iff]
    exact ⟨matches_of_fits, fits_of_matches⟩

end PartSearch.Like
