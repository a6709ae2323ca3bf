import Mathlib.Data.List.Basic
import ScopedCss.Source.Reader

/-! Reading token by token. One equation says what reading does with a token and one what it does at
the end of the text; a stretch of text that takes a reader to another is a chain of such tokens.
Where tokens start is left open there, since it depends on all that was read before. -/
namespace ScopedCss.Source

/-- Reading with a first token that can be taken goes on behind it. -/
theorem readFrom_token {r r' : Reader} {cs gap rest : List Char} {c : Char} {cut : Cut}
    (last here : Location) (hgap : splitGap false cs = (gap, c :: rest))
    (hscan : scan? r.stage.allows (c :: rest) = some cut)
    (hstep : r.step gap ⟨cut.terminal, cut.text, here.after gap⟩ = some r') :
    readFrom r last here cs =
      readFrom r' (here.after gap) ((here.after gap).after cut.text) cut.rest := by
  rw [readFrom]
  split
  next h =>
    rw [hgap] at h
    cases h
  next c' rest' h =>
    rw [hgap] at h
    cases h
    split
    next hc =>
      rw [hscan] at hc
      cases hc
    next cut' hc =>
      rw [hscan] at hc
      cases hc
      simp only [hgap, hstep]

theorem readFrom_end {r : Reader} {cs gap : List Char} (last here : Location)
    (hgap : splitGap false cs = (gap, [])) (hr : r.isFinished) :
    readFrom r last here cs = .ok r.done := by
  rw [readFrom]
  split
  next => exact if_pos hr
  next h =>
    rw [hgap] at h
    cases h

/-- A reading that succeeds has come to the end of the text or goes on behind a first token. -/
theorem readFrom_ok_cases {r : Reader} {last here : Location} {cs : List Char}
    {blocks : List Block} (h : readFrom r last here cs = .ok blocks) :
    ((splitGap false cs).2 = [] ∧ r.isFinished ∧ r.done = blocks) ∨
    ∃ gap c rest cut r', splitGap false cs = (gap, c :: rest) ∧
      scan? r.stage.allows (c :: rest) = some cut ∧
      r.step gap ⟨cut.terminal, cut.text, here.after gap⟩ = some r' ∧
      readFrom r' (here.after gap) ((here.after gap).after cut.text) cut.rest = .ok blocks := by
  rw [readFrom] at h
  split at h
  next hgap =>
    split at h
    next hr =>
      cases h
      exact .inl ⟨hgap, hr, rfl⟩
    next => cases h
  next c rest hgap =>
    split at h
    next => cases h
    next cut hscan =>
      cases hstep : r.step (splitGap false cs).1
          ⟨cut.terminal, cut.text, here.after (splitGap false cs).1⟩ with
      | none =>
        simp only [hstep] at h
        cases h
      | some r' =>
        simp only [hstep] at h
        exact .inr ⟨_, c, rest, cut, r', Prod.ext rfl hgap, hscan, hstep, h⟩

/-- What is left behind a token is shorter than the text it was taken from. -/
theorem length_rest_lt {allowed : Terminal → Bool} {cs rest : List Char} {c : Char} {cut : Cut}
    (hgap : (splitGap false cs).2 = c :: rest) (hscan : scan? allowed (c :: rest) = some cut) :
    cut.rest.length < cs.length := by
  have hlt := (scan?_of hscan).length_lt
  have hle := splitGap_length_le false cs
  rw [hgap] at hle
  omega

/-- What holds of a finished reader at the end of the text, and of a reader if it holds of the one
behind the next token, holds of every reader that gets to the end. -/
theorem readFrom_induction {blocks : List Block}
    {motive : Reader → Location → Location → List Char → Prop}
    (hfinish : ∀ {r last here cs}, (splitGap false cs).2 = [] → r.isFinished → r.done = blocks →
      motive r last here cs)
    (htoken : ∀ {r last here cs gap c rest cut r'}, splitGap false cs = (gap, c :: rest) →
      scan? r.stage.allows (c :: rest) = some cut →
      r.step gap ⟨cut.terminal, cut.text, here.after gap⟩ = some r' →
      readFrom r' (here.after gap) ((here.after gap).after cut.text) cut.rest = .ok blocks →
      motive r' (here.after gap) ((here.after gap).after cut.text) cut.rest →
      motive r last here cs)
    {r : Reader} {last here : Location} {cs : List Char}
    (h : readFrom r last here cs = .ok blocks) : motive r last here cs := by
  induction hn : cs.length using Nat.strongRecOn generalizing r last here cs with
  | _ n ih =>
    rcases readFrom_ok_cases h with
      ⟨hend, hr, hdone⟩ | ⟨gap, c, rest, cut, r', hgap, hscan, hstep, hrest⟩
    · exact hfinish hend hr hdone
    · have hlt := length_rest_lt (by rw [hgap]) hscan
      exact htoken hgap hscan hstep hrest (ih _ (hn ▸ hlt) hrest rfl)

/-! ### Stretches of text -/

/-- Reading a text from a reader goes on with the rest of it from a reader with a property,
wherever the text starts. -/
def Reaches (r : Reader) (cs : List Char) (P : Reader → Prop) (rest : List Char) : Prop :=
  ∀ last here, ∃ r' last' here', P r' ∧ readFrom r last here cs = readFrom r' last' here' rest

variable {r : Reader} {cs mid rest : List Char} {P Q : Reader → Prop}

theorem Reaches.refl (hr : P r) : Reaches r cs P cs :=
  fun last here => ⟨r, last, here, hr, rfl⟩

theorem Reaches.trans (h : Reaches r cs P mid) (hnext : ∀ r', P r' → Reaches r' mid Q rest) :
    Reaches r cs Q rest := by
  intro last here
  obtain ⟨r₁, last₁, here₁, hP, heq₁⟩ := h last here
  obtain ⟨r₂, last₂, here₂, hQ, heq₂⟩ := hnext r₁ hP last₁ here₁
  exact ⟨r₂, last₂, here₂, hQ, heq₁.trans heq₂⟩

theorem Reaches.mono (h : Reaches r cs P rest) (hPQ : ∀ r', P r' → Q r') : Reaches r cs Q rest :=
  h.trans fun _ hP => .refl (hPQ _ hP)

/-- A single token, wherever it starts. -/
theorem reaches_token (r : Reader) (cut : Cut) {gap : List Char} {c : Char}
    {next : Location → Reader} (hgap : splitGap false cs = (gap, c :: rest))
    (hscan : scan? r.stage.allows (c :: rest) = some cut)
    (hstep : ∀ loc, r.step gap ⟨cut.terminal, cut.text, loc⟩ = some (next loc)) :
    Reaches r cs (fun r' => ∃ loc, r' = next loc) cut.rest :=
  fun last here => ⟨_, _, _, ⟨_, rfl⟩, readFrom_token last here hgap hscan (hstep _)⟩

/-- A single token that leads to one reader, wherever it starts. -/
theorem reaches_token_eq (r : Reader) (cut : Cut) {gap : List Char} {c : Char} {r' : Reader}
    (hgap : splitGap false cs = (gap, c :: rest))
    (hscan : scan? r.stage.allows (c :: rest) = some cut)
    (hstep : ∀ loc, r.step gap ⟨cut.terminal, cut.text, loc⟩ = some r') :
    Reaches r cs (· = r') cut.rest :=
  fun last here => ⟨_, _, _, rfl, readFrom_token last here hgap hscan (hstep _)⟩

end ScopedCss.Source
