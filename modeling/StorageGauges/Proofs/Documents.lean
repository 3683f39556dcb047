import StorageGauges.Probe
import StorageGauges.Profile
import StorageGauges.Proofs.Health.Blocks
import StorageGauges.Proofs.Json.Recovery
import StorageGauges.Target

/-!
# What Is Kept Survives as a Document

Targets, profiles and what the probes are told are written as documents, and what
is read from such a document is what was written. Names and messages may hold any
characters. A message or a reason that is absent is left out, an endpoint or a
limit that is absent is `null`, and both are read as absent again.

Two things are not kept for themselves. A time is read if it fits into 64 bits,
and a limit if its own text is read as the limit. A map is read with its entries
in the order of their names, in which a map has them already.

Whatever the components report, what is known of them is a map of that kind. So
the health probe tells exactly what is known.

## Main definitions

* `Health.IsTime`: A time that fits into 64 bits.
* `Health.Call.Timely`: A call at such a time.
* `PrintsBack`: A limit that is absent or is read from its own text.

## Theorems

* `Target.survives`, `Health.Component.survives`, `Health.Report.survives`,
  `Health.Readiness.survives`, `Mount.survives`, `ContainerProfile.survives`,
  `PodProfile.survives`: What is kept survives.
* `Health.Registry.isTime_hearAll`: All times that are known fit.
* `values_recovered`: All of them are read from their texts.
-/

namespace StorageGauges

open Json

namespace Target

theorem survives (t : Target) : Survives toJson ofJson? t := by
  have hname := survives_ofText t.name
  have hendpoint : Survives (ofOption ofText) (Json.optional? text?) t.endpoint :=
    survives_ofOption rfl fun s _ => survives_ofText s
  exact survives_record rfl (fun _ => rfl) (by simp) (by decide)
    (by simp [hname.textual, hendpoint.textual])
    (by simp [hname.reads, hendpoint.reads])

end Target

/-! ## What the probes are told -/

namespace Health

/-- A time that fits into 64 bits. -/
def IsTime (t : Int) : Prop :=
  Component.times.1 ≤ t ∧ t ≤ Component.times.2

/-- A status is written as one of three words and read back from it. -/
theorem Status.survives (s : Status) : Survives (fun s => ofText s.name) ofJson? s := by
  refine ⟨.text s.name, ?_⟩
  rw [ofJson?, tag?_written, Option.bind_some]
  cases s <;> rfl

/-- A component is a record of two or three members, with its time as a number. -/
theorem Component.survives {c : Component} (h : IsTime c.since) : Survives toJson ofJson? c := by
  have hstatus := c.status.survives
  have hsince := survives_ofInt h.1 h.2
  -- Whether there is a message decides on the members.
  rcases c with ⟨status, _ | m, since⟩
  · exact survives_record rfl (fun _ => rfl) (by simp) (by decide)
      (by simp [hstatus.textual, hsince.textual])
      (by simp [hstatus.reads, hsince.reads])
  · have hm := survives_ofText m
    exact survives_record rfl (fun _ => rfl) (by simp) (by decide)
      (by simp [hstatus.textual, hsince.textual, hm.textual])
      (by simp [hstatus.reads, hsince.reads, optional?_written rfl hm])

/-- A report has its components in a record by name, in the order of the names. -/
theorem Report.survives {r : Report} (hordered : r.components.Ordered)
    (h : ∀ e ∈ r.components, IsTime e.2.since) : Survives toJson ofJson? r := by
  have hstatus := r.status.survives
  -- Names in order differ, and put back in order they are the map again.
  have hnames := NameMap.nodup_names r.components hordered
  have hcomponents := survives_entries hnames fun e he => Component.survives (h e he)
  exact survives_record rfl (fun _ => rfl) (by simp) (by decide)
    (by simp [hstatus.textual, hcomponents.textual])
    (by simp [hstatus.reads, hcomponents.reads, NameMap.ofEntries_of_ordered _ hordered])

/-- A readiness is a record with a reason or without one. -/
theorem Readiness.survives (r : Readiness) : Survives toJson ofJson? r := by
  have hready := survives_bool r.ready
  -- Whether there is a reason decides on the members.
  rcases r with ⟨ready, _ | m⟩
  · exact survives_record rfl (fun _ => rfl) (by simp) (by decide)
      (by simp [hready.textual])
      (by simp [hready.reads])
  · have hm := survives_ofText m
    exact survives_record rfl (fun _ => rfl) (by simp) (by decide)
      (by simp [hready.textual, hm.textual])
      (by simp [hready.reads, optional?_written rfl hm])

end Health

/-! ## Profiles -/

/-- A limit that is absent or is read from its own text. -/
def PrintsBack (limit : Option Float) : Prop :=
  ∀ x, limit = some x → Recovers ofFloat float? x

/-- A limit is left out where there is none. -/
theorem survives_of_printsBack {limit : Option Float} (h : PrintsBack limit) :
    Survives (ofOption ofFloat) (Json.optional? float?) limit :=
  survives_ofOption rfl fun x hx => survives_ofFloat (h x hx)

/-- A mount, with its limit if it has one. -/
theorem Mount.survives {m : Mount} (h : PrintsBack m.sizeLimit) : Survives toJson ofJson? m := by
  have hvolume := survives_ofText m.volume
  have hpath := survives_ofText m.path
  have hlimit := survives_of_printsBack h
  exact survives_record rfl (fun _ => rfl) (by simp) (by decide)
    (by simp [hvolume.textual, hpath.textual, hlimit.textual])
    (by simp [hvolume.reads, hpath.reads, hlimit.reads])

/-- A container, with its limit and its mounts. -/
theorem ContainerProfile.survives {c : ContainerProfile} (h : PrintsBack c.limit)
    (hmounts : ∀ m ∈ c.mounts, PrintsBack m.sizeLimit) : Survives toJson ofJson? c := by
  have hname := survives_ofText c.name
  have hlimit := survives_of_printsBack h
  have hlist := survives_list fun m hm => Mount.survives (hmounts m hm)
  exact survives_record rfl (fun _ => rfl) (by simp) (by decide)
    (by simp [hname.textual, hlimit.textual, hlist.textual])
    (by simp [hname.reads, hlimit.reads, hlist.reads])

/-- A pod is the list of its containers. -/
theorem PodProfile.survives {p : PodProfile}
    (h : ∀ c ∈ p.containers, PrintsBack c.limit ∧ ∀ m ∈ c.mounts, PrintsBack m.sizeLimit) :
    Survives toJson ofJson? p := by
  have hlist := survives_list fun c hc => ContainerProfile.survives (h c hc).1 (h c hc).2
  exact survives_record rfl (fun _ => rfl) (by simp) (by decide)
    (by simp [hlist.textual])
    (by simp [hlist.reads])

/-! ## The health probe -/

namespace Health

/-- A call at a time that fits into 64 bits, and a component that it brings has
    had its status since such a time. -/
def Call.Timely (call : Call) : Prop :=
  IsTime call.now ∧ ∀ name c, call.statement = .was name c → IsTime c.since

/-- What a call says of a component has been so since the call, or since the time
    that the call brings. -/
theorem Call.isTime_of_about? {call : Call} (h : call.Timely) {name : String} {w : Word}
    (habout : call.about? = some (name, w)) : IsTime w.said.since := by
  rcases call with ⟨now, statement⟩
  cases statement with
  | was other c =>
      cases habout
      exact h.2 name c rfl
  | firstScrape => cases habout
  | registered other | healthy other | degraded other message | unhealthy other message =>
      cases habout
      exact h.1

/-- A word leaves the time that was known or brings its own. -/
theorem Word.since_settle (w : Word) (known : Option Component) :
    (w.settle known).since = w.said.since ∨
      ∃ c, known = some c ∧ (w.settle known).since = c.since := by
  unfold settle Registry.merge
  split
  · exact .inl rfl
  · split
    · split
      · exact .inr ⟨_, rfl, rfl⟩
      · exact .inl rfl
    · exact .inl rfl

namespace Registry

/-- All times that are known fit into 64 bits. -/
theorem isTime_hearAll (calls : List Call) (h : ∀ call ∈ calls, call.Timely) :
    ∀ e ∈ (empty.hearAll calls).components, IsTime e.2.since := by
  induction calls using List.reverseRecOn with
  | nil => exact fun e he => absurd he List.not_mem_nil
  | append_singleton calls call ih =>
      have hbefore := ih fun c hc => h c (List.mem_append_left [call] hc)
      -- A call changes one entry, and the time in it was known or comes with the call.
      intro e he
      rw [hearAll_snoc, components_hear] at he
      split at he
      · rename_i name w habout
        rcases NameMap.mem_insert _ name _ e he with rfl | he
        · rcases w.since_settle ((empty.hearAll calls).components.find? name) with
            hsince | ⟨c, hc, hsince⟩
          · exact hsince ▸ Call.isTime_of_about? (h call (by simp)) habout
          · have hmem := (NameMap.mem_iff_find? _ (ordered_hearAll calls) name c).mpr hc
            exact hsince ▸ hbefore (name, c) hmem
        · exact hbefore e he
      · exact hbefore e he

/-- The report of the probe is of known components, so it survives if all calls are
    timely. -/
theorem survives_report (calls : List Call) (h : ∀ call ∈ calls, call.Timely) :
    Survives Report.toJson Report.ofJson? (empty.hearAll calls).report :=
  Report.survives (ordered_hearAll calls) (isTime_hearAll calls h)

end Registry

end Health

open Health

/-- Reading what is written gives it back, whatever characters it has in it:

    Every target and every readiness is read from its text. So is every component
    at a time that fits into 64 bits, and every report of such components under
    names in their order. A mount, a container and a pod are read if each of their
    limits is absent or is read from its own text.

    Whatever the components report, the body of the health probe is read as what
    is known of them, and that of the other probe as the readiness. -/
theorem values_recovered :
    (∀ t : Target, Recovers Target.toJson Target.ofJson? t) ∧
    (∀ c : Component, IsTime c.since → Recovers Component.toJson Component.ofJson? c) ∧
    (∀ r : Report, r.components.Ordered → (∀ e ∈ r.components, IsTime e.2.since) →
      Recovers Report.toJson Report.ofJson? r) ∧
    (∀ r : Readiness, Recovers Readiness.toJson Readiness.ofJson? r) ∧
    (∀ m : Mount, PrintsBack m.sizeLimit → Recovers Mount.toJson Mount.ofJson? m) ∧
    (∀ c : ContainerProfile, PrintsBack c.limit → (∀ m ∈ c.mounts, PrintsBack m.sizeLimit) →
      Recovers ContainerProfile.toJson ContainerProfile.ofJson? c) ∧
    (∀ p : PodProfile,
      (∀ c ∈ p.containers, PrintsBack c.limit ∧ ∀ m ∈ c.mounts, PrintsBack m.sizeLimit) →
        Recovers PodProfile.toJson PodProfile.ofJson? p) ∧
    ∀ (calls : List Call) (store : Store), (∀ call ∈ calls, call.Timely) →
      let r := Registry.empty.hearAll calls
      (ofString? (Probe.response r store "GET" "/healthz").body).bind Report.ofJson? =
          some r.report ∧
        (ofString? (Probe.response r store "GET" "/readyz").body).bind Readiness.ofJson? =
          some r.readiness := by
  refine ⟨fun t => t.survives.recovers, fun c h => (Component.survives h).recovers,
    fun r hordered h => (Report.survives hordered h).recovers, fun r => r.survives.recovers,
    fun m h => (Mount.survives h).recovers,
    fun c h hmounts => (ContainerProfile.survives h hmounts).recovers,
    fun p h => (PodProfile.survives h).recovers, fun calls store h => ?_⟩
  -- The two paths are those of the probes, and GET is answered with what they read.
  have hget (r : Registry) (p : Probe) : Probe.response r store "GET" p.path = p.read r store := by
    rw [Probe.response, Probe.ofTarget?_path]
    rfl
  intro r
  have hhealth : Probe.response r store "GET" "/healthz" = Probe.health.read r store :=
    hget r .health
  have hready : Probe.response r store "GET" "/readyz" = Probe.readiness.read r store :=
    hget r .readiness
  rw [hhealth, hready]
  exact ⟨(Registry.survives_report calls h).recovers, r.readiness.survives.recovers⟩

/-- A message with a quotation mark, a control character and a character outside
    the basic plane, at the least time; a limit of a gibibyte beside one that is
    absent; and the body of the probe after a component has become degraded. -/
theorem values_recovered_unusual :
    let c : Component :=
      { status := .degraded, message := some "lag \"x\\\u0001\n😀", since := -9223372036854775808 }
    let p : PodProfile :=
      { containers :=
          [{ name := "app", limit := some 1073741824.0
             mounts := [{ volume := "tmp", path := "/tmp", sizeLimit := none }] }] }
    let calls : List Call :=
      [⟨10, .registered scheduler⟩, ⟨20, .degraded scheduler "slow\tnode"⟩, ⟨30, .firstScrape⟩]
    Recovers Component.toJson Component.ofJson? c ∧
      Recovers PodProfile.toJson PodProfile.ofJson? p ∧
        (ofString? (Probe.response (Registry.empty.hearAll calls) Store.empty "GET"
          "/healthz").body).bind Report.ofJson? = some (Registry.empty.hearAll calls).report := by
  have hlimit : PrintsBack (some 1073741824.0) := by
    rintro x ⟨⟩
    unfold Recovers
    decide +kernel
  have habsent : PrintsBack none := fun x hx => absurd hx (by simp)
  intro c p calls
  rcases values_recovered with ⟨-, hcomponent, -, -, -, -, hpod, hprobe⟩
  refine ⟨hcomponent c ⟨by decide, by decide⟩, hpod p ?_, (hprobe calls Store.empty ?_).1⟩
  · intro container hcontainer
    rw [List.mem_singleton.mp hcontainer]
    refine ⟨hlimit, fun m hm => ?_⟩
    rw [List.mem_singleton.mp hm]
    exact habsent
  · intro call hcall
    simp only [calls, List.mem_cons, List.not_mem_nil, or_false] at hcall
    rcases hcall with rfl | rfl | rfl
    all_goals exact ⟨⟨by decide, by decide⟩, fun name c hwas => absurd hwas (by simp)⟩

end StorageGauges
