import ScopedCss.Proofs.FileEnds
import ScopedCss.Proofs.ThemeSwitches

/-!
Mounts that fail because the generator fails. The generator writes to the stylesheet itself, in
memory or in a file, and moves the counter of the provider itself, so what it did until then stays.
Main statement: what stays is exactly that, and everything else is as before.
-/
namespace ScopedCss

/-- A session that is like another one but for more text on a page. -/
def Session.Written (b edition : Nat) (s t : Session) : Prop :=
  ∃ text, (s.modifyBackend b (Backend.write edition text)).Alike t

section
variable {id : String} {i b edition : Nat} {s t : Session} {g : Generator}

theorem Session.written_refl (s : Session) : s.Written b edition s := by
  refine ⟨"", ?_⟩
  rw [Session.modifyBackend_write_empty]
  exact .refl s

theorem Session.Written.put (h : s.Written b edition t) (text : Text) :
    s.Written b edition ((Sink.page b edition).put text t) := by
  obtain ⟨before, logs, heard, calls, rfl, hreminders⟩ := h
  refine ⟨before ++ text, logs, heard, calls, ?_, hreminders⟩
  rw [← Session.modifyBackend_write_write]
  rfl

/-- While a generator writes to the page of its busy provider, text is all that comes to it. -/
theorem keeps_written_call (b edition : Nat) (hbusy : (s.provider i).busy = true)
    (hbound : g.Bound id i s) (depth : Nat) (theme : Theme) (start : Int) :
    Keeps (s.Written b edition) (g.call (Step.perform depth) theme (.page b edition) start) := by
  refine keeps_call ?_ (fun text t h => h.put text) ?_ theme start
  · rintro n t ⟨text, halike⟩
    exact ⟨text, halike.countCall n⟩
  · rintro step hasking t ⟨text, halike⟩
    obtain ⟨hkeeping, hconcerns⟩ := hbound step hasking
    exact ⟨text, keeps_alike_perform (s := s.modifyBackend b _) ⟨hkeeping.named, hkeeping.tame⟩
      hbusy depth hconcerns t halike⟩

end

/-! ### Traces -/

/-- The text of a stylesheet as it is kept; files keep their own line ends. -/
def Session.sheet (s : Session) (b : Nat) : Except FileFault Text :=
  match s.backend b with
  | .memory css _ => .ok css
  | .file name => (s.files.read name).map .ofString

theorem Session.sheet_of_memory {s : Session} {b count : Nat} {css : Text}
    (hmemory : s.backend b = .memory css count) : s.sheet b = .ok css := by
  rw [sheet, hmemory]

theorem Session.sheet_of_file {s : Session} {b : Nat} {name : String}
    (hfile : s.backend b = .file name) : s.sheet b = (s.files.read name).map .ofString := by
  rw [sheet, hfile]

/-- A backend but for its text. -/
def Backend.blank : Backend → Backend
  | .memory _ count => .memory "" count
  | .file name => .file name

/-- A provider and its stylesheet that differ from what they were in a counter and in more text
only. -/
structure Trace (i b : Nat) (s t : Session) (stop : Int) (text : Text) : Prop where
  provider : t.provider i = { s.provider i with counter := stop }
  place : (t.backend b).blank = (s.backend b).blank
  sheet : ∃ css, s.sheet b = .ok css ∧ t.sheet b = .ok (css ++ text)

section
variable {i b : Nat} {s t : Session} {css text : Text} {stop : Int}

theorem Trace.eq_iff (h : Trace i b s t stop text) :
    t.provider i = s.provider i ∧ t.sheet b = s.sheet b ↔
      stop = (s.provider i).counter ∧ text = Text.ofString "" := by
  obtain ⟨css, hbefore, hafter⟩ := h.sheet
  rw [h.provider, hbefore, hafter]
  refine and_congr ⟨fun hsame => congrArg Provider.counter hsame, fun hsame => by rw [hsame]⟩ ?_
  rw [Except.ok.injEq, Text.append_eq_left]

theorem trace_of_alike (hreadable : s.sheet b = .ok css) (halike : s.Alike t) :
    Trace i b s t (s.provider i).counter "" := by
  obtain ⟨_, _, _, rfl, -⟩ := halike
  refine ⟨rfl, rfl, css, hreadable, ?_⟩
  rw [Text.append_empty]
  exact hreadable

theorem trace_of_page {count : Nat} (hmemory : s.backend b = .memory css count)
    (hstored : b < s.backends.length)
    (halike : (s.modifyBackend b (Backend.write count text)).Alike t) :
    Trace i b s t (s.provider i).counter text := by
  have hpage : t.backend b = .memory (css ++ text) count := by
    rw [halike.backend, Session.backend_modifyBackend_self _ hstored, hmemory]
    simp [Backend.write]
  refine ⟨halike.provider i, ?_, css, ?_, ?_⟩
  · rw [hpage, hmemory]
    rfl
  · exact Session.sheet_of_memory hmemory
  · exact Session.sheet_of_memory hpage

theorem trace_of_file {name old : String} {number : Nat} (hfile : s.backend b = .file name)
    (hread : s.files.read name = .ok old)
    (hmore : ∀ text, (s.files.append number text).read name = .ok (old ++ text))
    (halike : s.Alike t)
    (text : String) :
    Trace i b s { t with files := t.files.append number text } (s.provider i).counter
      (.ofString text) := by
  have hafter : Session.backend { t with files := t.files.append number text } b = .file name :=
    (halike.backend b).trans hfile
  refine ⟨halike.provider i, ?_, .ofString old, ?_, ?_⟩
  · rw [hafter, hfile]
  · rw [Session.sheet_of_file hfile, hread]
    rfl
  · rw [Session.sheet_of_file hafter, halike.files, hmore]
    rfl

theorem Session.lt_of_busy (hbusy : (s.provider i).busy = true) : i < s.providers.length := by
  by_contra houtside
  rw [Session.provider, List.getD_eq_getElem?_getD,
    List.getElem?_eq_none (Nat.not_lt.1 houtside)] at hbusy
  cases hbusy

/-- When the provider is idle again only the counter is to be set. -/
theorem Trace.settle (hidle : (s.provider i).busy = false) (hi : i < s.providers.length)
    {counter : Int}
    (h : Trace i b (s.modifyProvider i fun p => { p with busy := true }) t counter text)
    (stop : Int) :
    Trace i b s (t.modifyProvider i fun p => { p with counter := stop, busy := false }) stop
      text := by
  have hprovider := h.provider
  rw [Session.provider_modifyProvider_self _ hi] at hprovider
  have hthere : i < t.providers.length := Session.lt_of_busy (by rw [hprovider])
  refine ⟨?_, h.place, h.sheet⟩
  rw [Session.provider_modifyProvider_self _ hthere, hprovider, ← hidle]

end

/-! ### Failing generators -/

/-- What a generator came to that was run on a stylesheet, and the text that it left there: what a
call with its text collected comes to, unless the text cannot be written. -/
def Generator.Leaves (again : Step → Act Outcome) (theme : Theme) (start : Int) (s : Session)
    (g : Generator) (called : Called) (text : Text) : Prop :=
  ∃ c u, exec (g.call again theme .collected start) s = (.ok c, u) ∧
    (called.result = c.result ∧ called.counter = c.counter ∧ text = c.collected ∨
      called.result = .error (.file .unencodable) ∧ called.counter = start ∧ text = "")

section
variable {again : Step → Act Outcome} {theme : Theme} {start : Int} {s t : Session} {g : Generator}
  {called : Called} {text : Text} {e : Failure}

/-- The base of all classes, or a class whose values do nothing but give values or fail. -/
def Generator.Body.Still (body : Generator.Body) : Prop :=
  body = .base ∨ ∃ cls, body = .compiled cls ∧ cls.isInactive = true

theorem Generator.Body.Still.steps {body : Generator.Body} (h : body.Still) : body.steps = [] := by
  rcases h with rfl | ⟨cls, rfl, -⟩ <;> rfl

/-- Such classes have done nothing when they fail. -/
theorem called_of_still (hstill : g.body.Still)
    (hran : exec (g.call again theme .collected start) s = (.ok called, t))
    (hfailed : called.result = .error e) : called.counter = start ∧ called.collected = "" := by
  rcases hstill with hbody | ⟨cls, hbody, hinactive⟩
  · rw [exec_call, hbody] at hran
    cases hran
    exact ⟨rfl, rfl⟩
  · cases hwrote : cls.generate theme start with
    | error e' =>
      rw [exec_call_of_error again hbody hinactive hwrote] at hran
      cases hran
      exact ⟨rfl, rfl⟩
    | ok p =>
      rw [exec_call_of_ok again hbody hwrote] at hran
      cases hran
      cases hfailed

theorem Generator.Leaves.of_still (h : g.Leaves again theme start s called text)
    (hstill : g.body.Still) (hfailed : called.result = .error e) :
    called.counter = start ∧ text = "" := by
  obtain ⟨c, u, hran, ⟨hresult, hcounter, rfl⟩ | ⟨-, hcounter, rfl⟩⟩ := h
  · rw [hcounter]
    exact called_of_still hstill hran (hresult.symm.trans hfailed)
  · exact ⟨hcounter, rfl⟩

/-- A generator that asks for nothing has written what would have been collected. -/
theorem leaves_of_page {b edition : Nat} (hasks : g.body.steps = [])
    (hran : exec (g.call again theme (.page b edition) start) s = (.ok called, t)) :
    ∃ text, g.Leaves again theme start s called text ∧
      t = (s.countCall g.number).modifyBackend b (Backend.write edition text) := by
  have hafter := exec_call_collected_snd hasks again theme start s
  have hwould : ∃ c, exec (g.call again theme .collected start) s = (.ok c, s.countCall g.number) :=
    ⟨_, Prod.ext rfl hafter⟩
  obtain ⟨c, hwould⟩ := hwould
  rw [exec_call_page hasks b edition hwould] at hran
  cases hran
  exact ⟨c.collected, ⟨c, _, hwould, .inl ⟨rfl, rfl, rfl⟩⟩, rfl⟩

/-- What a generator does to the stylesheet of a busy provider. -/
theorem trace_of_append (depth : Nat) {id : String} {i b : Nat} {css : Text}
    (hstored : b < s.backends.length) (hreadable : s.sheet b = .ok css)
    (hbusy : (s.provider i).busy = true) (hbound : g.Bound id i s)
    (hran : exec (Provider.append (Step.perform depth) b theme g start) s = (.ok called, t)) :
    ∃ text, Trace i b s t (s.provider i).counter text ∧
      (g.body.steps = [] → g.Leaves (Step.perform depth) theme start s called text) := by
  cases hplace : s.backend b with
  | memory css count =>
    rw [Provider.exec_append_memory _ hplace] at hran
    by_cases hasks : g.body.steps = []
    · obtain ⟨text, hleaves, rfl⟩ := leaves_of_page hasks hran
      exact ⟨text, trace_of_page hplace hstored ((Session.Alike.refl _).countCall g.number),
        fun _ => hleaves⟩
    · have hwritten := keeps_written_call b count hbusy hbound depth theme start _
        (Session.written_refl s)
      rw [hran] at hwritten
      obtain ⟨text, halike⟩ := hwritten
      exact ⟨text, trace_of_page hplace hstored halike, fun hsilent => absurd hsilent hasks⟩
  | file name =>
    obtain ⟨old, hread, -⟩ := map_eq_ok.1 ((Session.sheet_of_file hplace).symm.trans hreadable)
    obtain ⟨number, hopened, hmore⟩ := Files.openEnd_of_read hread
    obtain ⟨c, u, hown⟩ : ∃ c u, exec (g.call (Step.perform depth) theme .collected start) s =
      (.ok c, u) := ⟨_, _, rfl⟩
    have halike := keeps_alike_call depth theme start hbusy hbound s (.refl s)
    rw [hown] at halike
    rw [Provider.exec_append_file _ hplace hopened hown] at hran
    cases hencoded : c.collected.toString? with
    | none =>
      rw [hencoded] at hran
      cases hran
      exact ⟨"", trace_of_alike hreadable halike, fun _ => ⟨c, _, hown, .inr ⟨rfl, rfl, rfl⟩⟩⟩
    | some text =>
      rw [hencoded] at hran
      cases hran
      exact ⟨.ofString text, trace_of_file hplace hread hmore halike text,
        fun _ => ⟨_, _, hown, .inl ⟨rfl, rfl, Text.eq_of_toString? hencoded⟩⟩⟩

end

/-- A generator that fails behind half of its text and a slot. -/
def halfway : List Action := [.write "half", .advance 1, .react (.raise "ValueError" "no")]

/-- A session with one provider, which nothing is mounted on, and the generator. -/
def beforeHalfway : Session :=
  ((({} : Session).perform (.newProvider "p" .memory .empty true)).2.perform
    (.define "g" (.text "g") "g" halfway)).2

end ScopedCss
