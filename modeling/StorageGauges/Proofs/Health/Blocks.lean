import Mathlib.Data.List.Basic
import Mathlib.Data.List.Induction
import StorageGauges.Probe

/-!
# What the Probes Tell

Components report under any names and in any order, and every call counts for
the component that it names and for no other. What is known of a component is
told by the calls about it alone: it has the status and the message of the last
one, and it has had that status since the first call of the block of equal
status at the end. A component that begins opens a block whatever it was before.

Both probes are answered from what is known of all components. The one asks for
the worst status, the other lists the components that are unhealthy, and they
agree: an exporter that is ready is alive.

## Main definitions

* `Health.Call`: A call of the registry, with its time.
* `Health.Word`: What a call says of one component.
* `Health.wordsOf`: What calls say of a component.
* `Health.LastBlock`: What is known from words that end with a block of equal status.
* `Health.Status.WorstOf`: A status is the worst of some.

## Theorems

* `Health.settleAll_eq_some_iff`: What some words leave known.
* `Health.Registry.find?_hearAll`: The calls about a component are all that counts for it.
* `Health.worst_worstOf`: The status of the whole exporter.
* `Health.Registry.ready_iff`: When the exporter is ready.
* `Health.probes_after_calls`: What the probes tell after any calls.
-/

namespace StorageGauges

namespace Health

/-- A call of the registry, with the time at which it is made. -/
structure Call where
  now : Int
  statement : Statement

/-- What a call says of one component, and whether the component begins with
    it. -/
structure Word where
  begins : Bool
  said : Component

namespace Word

/-- A component begins or has become healthy. -/
def healthy (begins : Bool) (now : Int) : Word :=
  { begins, said := { status := .healthy, message := none, since := now } }

/-- A component has become degraded or unhealthy. -/
def unwell (status : Status) (now : Int) (message : String) : Word :=
  { begins := false, said := { status, message := some message, since := now } }

/-- What is known of a component after a word. -/
def settle (w : Word) (known : Option Component) : Component :=
  if w.begins then w.said else Registry.merge known w.said

/-- A word opens a block of equal status: the component begins with it, or the
    word before it, if there is one, has another status. -/
def Opens (before : List Word) (w : Word) : Prop :=
  w.begins = true ∨
    ∀ previous, before.getLast? = some previous → previous.said.status ≠ w.said.status

/-- A word goes on with a block of a status. -/
def GoesOn (status : Status) (w : Word) : Prop :=
  w.begins = false ∧ w.said.status = status

end Word

/-- The component that a call is about, with what it says. -/
def Call.about? (call : Call) : Option (String × Word) :=
  match call.statement with
  | .registered name => some (name, .healthy true call.now)
  | .healthy name => some (name, .healthy false call.now)
  | .degraded name message => some (name, .unwell .degraded call.now message)
  | .unhealthy name message => some (name, .unwell .unhealthy call.now message)
  | .was name component => some (name, { begins := false, said := component })
  | .firstScrape => none

/-- What calls say of a component. -/
def wordsOf (name : String) (calls : List Call) : List Word :=
  ((calls.filterMap Call.about?).filter fun a => a.1 = name).map (·.2)

/-- What is known after some words. -/
def settleAll (words : List Word) : Option Component :=
  words.foldl (fun known w => some (w.settle known)) none

/-- What is known from words that end with a block of equal status: the status
    and the message of the last word, since the time of the first one of the
    block. -/
def LastBlock (words : List Word) (c : Component) : Prop :=
  ∃ before first rest last, words = before ++ first :: rest ∧ first.Opens before ∧
    (∀ w ∈ rest, w.GoesOn first.said.status) ∧ words.getLast? = some last ∧
      c = { status := last.said.status, message := last.said.message, since := first.said.since }

/-- The last word settles what is known after the others. -/
theorem settleAll_snoc (words : List Word) (w : Word) :
    settleAll (words ++ [w]) = some (w.settle (settleAll words)) := by
  rw [settleAll, List.foldl_append, List.foldl_cons, List.foldl_nil, settleAll]

/-- A word is believed about status and message, whatever was known. Only the time
    may be an older one. -/
theorem Word.status_settle (w : Word) (known : Option Component) :
    (w.settle known).status = w.said.status ∧ (w.settle known).message = w.said.message := by
  unfold settle Registry.merge
  by_cases hbegins : w.begins = true
  · rw [if_pos hbegins]
    exact ⟨rfl, rfl⟩
  · rw [if_neg hbegins]
    -- A component that begins is taken from what is said.
    cases known with
    | none => exact ⟨rfl, rfl⟩
    | some c =>
        by_cases hsame : c.status = w.said.status
        · simp only [hsame, if_true, and_self]
        · simp only [hsame, if_false, and_self]

/-- Status and message are those of the last word. -/
theorem settleAll_of_getLast? (words : List Word) (last : Word)
    (h : words.getLast? = some last) :
    ∃ c, settleAll words = some c ∧ c.status = last.said.status ∧
      c.message = last.said.message := by
  rcases List.getLast?_eq_some_iff.mp h with ⟨before, rfl⟩
  have hlast := last.status_settle (settleAll before)
  exact ⟨_, settleAll_snoc before last, hlast.1, hlast.2⟩

/-- A word that opens a block is taken as it is, with its time. -/
theorem Word.settle_of_opens (words : List Word) (w : Word) (h : w.Opens words) :
    w.settle (settleAll words) = w.said := by
  unfold settle
  by_cases hbegins : w.begins = true
  · rw [if_pos hbegins]
  · rw [if_neg hbegins]
    have hother := h.resolve_left hbegins
    cases hlast : words.getLast? with
    | none =>
        rw [List.getLast?_eq_none_iff] at hlast
        subst hlast
        rfl
    | some previous =>
        -- What is known has the status of the word before, and that is another one.
        rcases settleAll_of_getLast? words previous hlast with ⟨c, hc, hstatus, -⟩
        have hne : ¬ c.status = w.said.status := by
          rw [hstatus]
          exact hother previous hlast
        rw [hc, Registry.merge, if_neg hne]

/-- A word that goes on with a block leaves the time as it was. -/
theorem Word.since_settle_of_goesOn (w : Word) (c : Component) (h : w.GoesOn c.status) :
    (w.settle (some c)).since = c.since := by
  have hbegins : ¬ w.begins = true := by
    rw [h.1]
    exact Bool.false_ne_true
  rw [settle, if_neg hbegins, Registry.merge, if_pos h.2.symm]

/-- A block keeps the time of its first word. -/
theorem settleAll_block (before : List Word) (first : Word) (rest : List Word)
    (hopens : first.Opens before) (hrest : ∀ w ∈ rest, w.GoesOn first.said.status) :
    ∃ c, settleAll (before ++ first :: rest) = some c ∧ c.status = first.said.status ∧
      c.since = first.said.since := by
  -- By induction from the last word of the block, which goes on with it.
  induction rest using List.reverseRecOn with
  | nil =>
      refine ⟨first.said, ?_, rfl, rfl⟩
      rw [settleAll_snoc, first.settle_of_opens before hopens]
  | append_singleton rest w ih =>
      have hw : w.GoesOn first.said.status := hrest w (by simp)
      rcases ih fun v hv => hrest v (List.mem_append_left [w] hv) with ⟨c, hc, hstatus, hsince⟩
      refine ⟨w.settle (some c), ?_, ?_, ?_⟩
      · rw [← List.cons_append, ← List.append_assoc, settleAll_snoc, hc]
      · rw [(w.status_settle (some c)).1, hw.2]
      · have hgoes : w.GoesOn c.status := by rwa [hstatus]
        rw [w.since_settle_of_goesOn c hgoes, hsince]

/-- Words end with a block of equal status. -/
theorem exists_block (words : List Word) (h : words ≠ []) :
    ∃ before first rest, words = before ++ first :: rest ∧ first.Opens before ∧
      ∀ w ∈ rest, w.GoesOn first.said.status := by
  induction words using List.reverseRecOn with
  | nil => exact absurd rfl h
  | append_singleton words w ih =>
      by_cases hopens : w.Opens words
      · exact ⟨words, w, [], rfl, hopens, by simp⟩
      · -- The word does not open a block, so there is one that it goes on with.
        simp only [Word.Opens, not_or, Bool.not_eq_true, not_forall, not_not] at hopens
        rcases hopens with ⟨hbegins, previous, hlast, hstatus⟩
        have hne : words ≠ [] := by
          rintro rfl
          exact absurd hlast (by simp)
        rcases ih hne with ⟨before, first, rest, rfl, hfirst, hrest⟩
        have hprevious : previous.said.status = first.said.status := by
          rw [List.getLast?_append_cons] at hlast
          rcases List.mem_cons.mp (List.mem_of_getLast? hlast) with rfl | hmem
          · rfl
          · exact (hrest previous hmem).2
        refine ⟨before, first, rest ++ [w], by simp, hfirst, fun v hv => ?_⟩
        rcases List.mem_append.mp hv with hv | hv
        · exact hrest v hv
        · rw [List.mem_singleton.mp hv]
          exact ⟨hbegins, hstatus.symm.trans hprevious⟩

/-- The last block decides: its first word gives the time, its last one status and
    message. -/
theorem settleAll_of_lastBlock (words : List Word) (c : Component) (h : LastBlock words c) :
    settleAll words = some c := by
  rcases h with ⟨before, first, rest, last, rfl, hopens, hrest, hlast, rfl⟩
  rcases settleAll_block before first rest hopens hrest with ⟨c, hc, -, hsince⟩
  rcases settleAll_of_getLast? _ last hlast with ⟨d, hd, hstatus, hmessage⟩
  -- The component from the block and the one from the last word are the same.
  obtain rfl : c = d := Option.some.inj (hc.symm.trans hd)
  rw [hc, ← hstatus, ← hmessage, ← hsince]

/-- What some words leave known is what their last block says. -/
theorem settleAll_eq_some_iff (words : List Word) (c : Component) :
    settleAll words = some c ↔ LastBlock words c := by
  refine ⟨fun h => ?_, settleAll_of_lastBlock words c⟩
  have hne : words ≠ [] := by
    rintro rfl
    exact absurd h (by simp [settleAll])
  rcases exists_block words hne with ⟨before, first, rest, heq, hopens, hrest⟩
  have hblock : LastBlock words _ :=
    ⟨before, first, rest, words.getLast hne, heq, hopens, hrest,
      List.getLast?_eq_some_getLast hne, rfl⟩
  have hc := settleAll_of_lastBlock words _ hblock
  rw [h] at hc
  rw [Option.some.inj hc]
  exact hblock

/-- Nothing is known only of what nothing was said of. -/
theorem settleAll_eq_none_iff (words : List Word) : settleAll words = none ↔ words = [] := by
  cases words using List.reverseRecOn with
  | nil => simp [settleAll]
  | append_singleton words w => simp [settleAll_snoc]

/-- The last call adds a word if it is about the component. -/
theorem wordsOf_snoc (name : String) (calls : List Call) (call : Call) :
    wordsOf name (calls ++ [call]) = wordsOf name calls ++ wordsOf name [call] := by
  rw [wordsOf, List.filterMap_append, List.filter_append, List.map_append]
  rfl

namespace Registry

variable (r : Registry)

/-- The calls are made one after the other. -/
def hearAll (r : Registry) (calls : List Call) : Registry :=
  calls.foldl (fun r call => r.hear call.now call.statement) r

theorem hearAll_snoc (calls : List Call) (call : Call) :
    r.hearAll (calls ++ [call]) = (r.hearAll calls).hear call.now call.statement := by
  rw [hearAll, List.foldl_append, List.foldl_cons, List.foldl_nil, hearAll]

/-- A call changes what is known of the component that it is about. -/
theorem components_hear (call : Call) :
    (r.hear call.now call.statement).components =
      match call.about? with
      | some (name, w) => r.components.insert name (w.settle (r.components.find? name))
      | none => r.components := by
  rcases call with ⟨now, statement⟩
  cases statement <;> rfl

/-- Whether the first scrape has been dispatched is told by the one call that says
    so, and is never taken back. -/
theorem firstScrape_hear (call : Call) :
    (r.hear call.now call.statement).firstScrape = true ↔
      r.firstScrape = true ∨ call.statement = .firstScrape := by
  rcases call with ⟨now, statement⟩
  cases statement <;>
    simp [hear, register, setHealthy, setDegraded, setUnhealthy, update, markReady]

/-- What is known of a component is told by the words about it. -/
theorem find?_hearAll (calls : List Call) (name : String) :
    (empty.hearAll calls).components.find? name = settleAll (wordsOf name calls) := by
  induction calls using List.reverseRecOn with
  | nil => rfl
  | append_singleton calls call ih =>
      rw [hearAll_snoc, components_hear, wordsOf_snoc]
      cases habout : call.about? with
      | none => simp [wordsOf, habout, ih]
      | some about =>
          obtain ⟨other, w⟩ := about
          rw [NameMap.find?_insert]
          -- A call about another component adds no word to those of this one.
          by_cases hname : name = other
          · subst hname
            have hword : wordsOf name [call] = [w] := by simp [wordsOf, habout]
            rw [if_pos rfl, hword, settleAll_snoc, ih]
          · have hword : wordsOf name [call] = [] := by simp [wordsOf, habout, Ne.symm hname]
            rw [if_neg hname, hword, List.append_nil, ih]

/-- Components are kept in the order of their names. -/
theorem ordered_hearAll (calls : List Call) : (empty.hearAll calls).components.Ordered := by
  induction calls using List.reverseRecOn with
  | nil => exact List.Pairwise.nil
  | append_singleton calls call ih =>
      rw [hearAll_snoc, components_hear]
      split
      · exact NameMap.ordered_insert _ _ _ ih
      · exact ih

/-- By induction on the calls: the first scrape has been dispatched if one of them
    says so. -/
theorem firstScrape_hearAll (calls : List Call) :
    (empty.hearAll calls).firstScrape = true ↔ ∃ call ∈ calls, call.statement = .firstScrape := by
  induction calls using List.reverseRecOn with
  | nil => simp [hearAll, empty]
  | append_singleton calls call ih =>
      rw [hearAll_snoc, firstScrape_hear, ih]
      simp [or_and_right, exists_or]

/-- The exporter is ready once the first scrape has been dispatched and while
    no component is unhealthy. -/
theorem ready_iff : r.readiness.ready = true ↔ r.firstScrape = true ∧ r.unhealthy = [] := by
  unfold readiness
  by_cases hfirst : r.firstScrape = true
  · by_cases hnone : r.unhealthy = []
    · simp [hfirst, hnone]
    · simp [hfirst, hnone]
  · simp [hfirst]

/-- Where the scrape has been dispatched only unhealthy components are a reason. -/
theorem reason_of_not_ready (hfirst : r.firstScrape = true) (h : r.readiness.ready = false) :
    r.readiness.reason =
      some ("Unhealthy components: " ++ String.intercalate ", " r.unhealthy) := by
  -- Not being ready is not for want of the first scrape.
  have hsome : r.unhealthy.isEmpty = false := by
    by_contra hempty
    rw [Bool.not_eq_false, List.isEmpty_iff] at hempty
    rw [r.ready_iff.mpr ⟨hfirst, hempty⟩] at h
    exact absurd h (by decide)
  rw [readiness, hfirst, hsome]
  rfl

/-- A component is named as unhealthy exactly if it is known to be. -/
theorem mem_unhealthy_iff (h : r.components.Ordered) (name : String) :
    name ∈ r.unhealthy ↔
      ∃ c, r.components.find? name = some c ∧ c.status = .unhealthy := by
  unfold unhealthy NameMap.names
  simp only [List.mem_map, List.mem_filter, decide_eq_true_eq]
  constructor
  · rintro ⟨⟨other, c⟩, ⟨hmem, hstatus⟩, rfl⟩
    exact ⟨c, (NameMap.mem_iff_find? _ h _ _).mp hmem, hstatus⟩
  · rintro ⟨c, hfound, hstatus⟩
    exact ⟨(name, c), ⟨(NameMap.mem_iff_find? _ h _ _).mpr hfound, hstatus⟩, rfl⟩

/-- Names are in order, since they are taken from a map that is. -/
theorem pairwise_unhealthy (h : r.components.Ordered) :
    r.unhealthy.Pairwise fun a b => a < b :=
  List.pairwise_map.mpr (List.Pairwise.filter _ h)

end Registry

/-- A status is the worst of some, or healthy when there are none. -/
def Status.WorstOf (statuses : List Status) (s : Status) : Prop :=
  (∀ t ∈ statuses, t.severity ≤ s.severity) ∧
    (s ∈ statuses ∨ (statuses = [] ∧ s = .healthy))

/-- Of two statuses the worse is one of the two, and neither is worse than that. -/
theorem Status.worse_cases (s t : Status) :
    (s.worse t = s ∨ s.worse t = t) ∧ s.severity ≤ (s.worse t).severity ∧
      t.severity ≤ (s.worse t).severity := by
  unfold worse
  by_cases hlt : s.severity < t.severity
  · rw [if_pos hlt]
    exact ⟨Or.inr rfl, Nat.le_of_lt hlt, Nat.le_refl _⟩
  · rw [if_neg hlt]
    exact ⟨Or.inl rfl, Nat.le_refl _, by omega⟩

/-- The worst so far comes from somewhere and is not below anything that was looked
    at. -/
theorem foldl_worse (components : NameMap Component) (start : Status) :
    ((components.foldl (fun s c => s.worse c.2.status) start) = start ∨
        ∃ c ∈ components, c.2.status = components.foldl (fun s c => s.worse c.2.status) start) ∧
      start.severity ≤ (components.foldl (fun s c => s.worse c.2.status) start).severity ∧
        ∀ c ∈ components,
          c.2.status.severity ≤
            (components.foldl (fun s c => s.worse c.2.status) start).severity := by
  -- The rest starts from the worse of what was worst so far and the first component.
  induction components generalizing start with
  | nil => simp
  | cons head rest ih =>
      rw [List.foldl_cons]
      rcases ih (start.worse head.2.status) with ⟨hone, hstart, hrest⟩
      rcases start.worse_cases head.2.status with ⟨hworse, hless, hmore⟩
      refine ⟨?_, Nat.le_trans hless hstart, fun c hc => ?_⟩
      · rcases hone with hone | ⟨c, hc, hstatus⟩
        · rw [hone]
          rcases hworse with hworse | hworse
          · exact Or.inl hworse
          · exact Or.inr ⟨head, List.mem_cons_self, hworse.symm⟩
        · exact Or.inr ⟨c, List.mem_cons_of_mem head hc, hstatus⟩
      · rcases List.mem_cons.mp hc with rfl | hc
        · exact Nat.le_trans hmore hstart
        · exact hrest c hc

/-- The status of the whole exporter is the worst among its components. -/
theorem worst_worstOf (components : NameMap Component) :
    (worst components).WorstOf (components.map (·.2.status)) := by
  rcases foldl_worse components .healthy with ⟨hone, -, hall⟩
  constructor
  · intro t ht
    rcases List.mem_map.mp ht with ⟨c, hc, rfl⟩
    exact hall c hc
  · rcases hone with hone | ⟨c, hc, hstatus⟩
    · cases components with
      | nil => exact Or.inr ⟨rfl, rfl⟩
      | cons head rest =>
          -- Nothing is worse than healthy, so the first component is healthy.
          have hhead := hall head List.mem_cons_self
          rw [hone] at hhead
          have hhealthy : head.2.status = .healthy := by
            revert hhead
            cases head.2.status <;> decide
          have hworst : worst (head :: rest) = head.2.status := hone.trans hhealthy.symm
          rw [hworst]
          exact Or.inl List.mem_cons_self
    · exact Or.inl (List.mem_map.mpr ⟨c, hc, hstatus⟩)

/-- Where no component is unhealthy the worst status is another one. -/
theorem Registry.worst_ne_unhealthy (r : Registry) (h : r.unhealthy = []) :
    worst r.components ≠ .unhealthy := by
  intro hworst
  rcases (worst_worstOf r.components).2 with hmem | ⟨-, hhealthy⟩
  · rcases List.mem_map.mp hmem with ⟨c, hc, hstatus⟩
    have hname : c.1 ∈ r.unhealthy :=
      List.mem_map.mpr ⟨c, List.mem_filter.mpr ⟨hc, by simp [hstatus, hworst]⟩, rfl⟩
    rw [h] at hname
    exact absurd hname (by simp)
  · rw [hworst] at hhealthy
    exact absurd hhealthy (by decide)

end Health

namespace Probe

open Health

/-- The path of a probe leads to it. -/
theorem ofTarget?_path (p : Probe) : ofTarget? p.path = some p := by
  cases p <;> decide

/-- A probe is answered to the two methods that read, with the same status. -/
theorem status_response_path (r : Registry) (store : Store) (method : String) (p : Probe) :
    (response r store method p.path).status =
      if method = "GET" ∨ method = "HEAD" then (p.read r store).status else 405 := by
  rw [response, ofTarget?_path]
  by_cases hget : method = "GET"
  · simp [hget]
  · by_cases hhead : method = "HEAD"
    · simp [hhead, Response.head]
    · simp [hget, hhead, Response.refusal]

/-- An exporter that is ready is alive. -/
theorem alive_of_ready (r : Registry) (store : Store) (method : String)
    (h : (response r store method readiness.path).status = 200) :
    (response r store method health.path).status = 200 := by
  rw [status_response_path] at h ⊢
  by_cases hmethod : method = "GET" ∨ method = "HEAD"
  · rw [if_pos hmethod] at h ⊢
    have hready : r.readiness.ready = true := by
      by_contra hnot
      simp [read, Response.document, hnot] at h
    -- Ready means that none is unhealthy, and then the worst status is not either.
    have hworst := r.worst_ne_unhealthy (r.ready_iff.mp hready).2
    simp [read, Response.document, Registry.report, hworst]
  · rw [if_neg hmethod] at h
    exact absurd h (by decide)

end Probe

namespace Health

/-- After any calls, whatever the components are called:

    What is known of a component is told by the calls about it. Nothing is known
    if there are none. Otherwise it has the status and the message of the last,
    since the time of the one that opened the block of equal status at the end.

    The health probe tells of all components and of the worst status among
    them. The exporter is ready exactly if the first scrape has been dispatched
    and no component is unhealthy, and if it is not although the scrape has been
    dispatched, the probe names the unhealthy components in order. Where it tells
    that the exporter is ready, the other one tells that it is alive. -/
theorem probes_after_calls (calls : List Call) (store : Store) (method : String) :
    let r := Registry.empty.hearAll calls
    (∀ name, (r.components.find? name = none ↔ wordsOf name calls = []) ∧
        ∀ c, r.components.find? name = some c ↔ LastBlock (wordsOf name calls) c) ∧
      (r.report.components = r.components ∧
        r.report.status.WorstOf (r.components.map (·.2.status))) ∧
      (r.readiness.ready = true ↔
        (∃ call ∈ calls, call.statement = .firstScrape) ∧
          ∀ name c, r.components.find? name = some c → c.status ≠ .unhealthy) ∧
      ((∃ call ∈ calls, call.statement = .firstScrape) → r.readiness.ready = false →
        ∃ names : List String, names.Pairwise (fun a b => a < b) ∧
          (∀ name, name ∈ names ↔
            ∃ c, r.components.find? name = some c ∧ c.status = .unhealthy) ∧
          r.readiness.reason =
            some ("Unhealthy components: " ++ String.intercalate ", " names)) ∧
      ((Probe.response r store method Probe.readiness.path).status = 200 →
        (Probe.response r store method Probe.health.path).status = 200) := by
  intro r
  have hordered : r.components.Ordered := Registry.ordered_hearAll calls
  have hfirst : r.firstScrape = true ↔ ∃ call ∈ calls, call.statement = .firstScrape :=
    Registry.firstScrape_hearAll calls
  -- The names on the list are those of the components that are known to be unhealthy.
  have hnone : r.unhealthy = [] ↔
      ∀ name c, r.components.find? name = some c → c.status ≠ .unhealthy := by
    rw [List.eq_nil_iff_forall_not_mem]
    refine forall_congr' fun name => ?_
    rw [r.mem_unhealthy_iff hordered, not_exists]
    exact forall_congr' fun c => not_and
  refine ⟨fun name => ?_, ⟨rfl, worst_worstOf r.components⟩, ?_, fun hcall hready => ?_,
    Probe.alive_of_ready r store method⟩
  · rw [Registry.find?_hearAll]
    exact ⟨settleAll_eq_none_iff _, settleAll_eq_some_iff _⟩
  · rw [r.ready_iff, hfirst, hnone]
  · exact ⟨r.unhealthy, r.pairwise_unhealthy hordered, r.mem_unhealthy_iff hordered,
      r.reason_of_not_ready (hfirst.mpr hcall) hready⟩

/-- A repeated status changes the message and not the time. -/
example : (Registry.empty.hearAll [⟨10, .degraded "pods" "slow"⟩, ⟨20, .degraded "pods" "late"⟩,
    ⟨30, .healthy "nodes"⟩]).components.find? "pods" = some ⟨.degraded, some "late", 10⟩ := by
  decide

end Health

end StorageGauges
