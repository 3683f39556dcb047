import Mathlib.Data.List.Induction
import StorageGauges.Proofs.Scrapes.Stroke

/-!
# What a Payload Gives to a Series

A payload is written sample by sample, container by container and mount by
mount. Here it is looked at from the other end: given a series, which figure
has the payload for it? Every family answers that by itself. A sample has a
figure for a series only if the label values are its own, and of several
figures the last one counts.

After a payload was written a series has that figure, and without one it has
the value it had before, or none. Which series are live is told by the figures
alone. What is read of a live series is told by them as long as no other series
that gets a figure shares its gauge; where one does, its figure is what is
read.

## Main definitions

* `lastSome?`: The last value that a function finds in a list.
* `PodSample.tells`: A sample counts.
* `PodSample.figure?`: The figure that a sample has for a series.
* `given?`: The figure that a payload has for a series.

## Theorems

* `written?_sampleWrites`: What a sample writes is the figure it has.
* `written?_summaryWrites`: The same of a payload.
* `process_gives`: What is live after a payload, and what is read.
* `process_mixes_figures`: A figure can be read of another series.
-/

namespace StorageGauges

/-- The last value that a function finds in a list. -/
def lastSome? {α β : Type} (f : α → Option β) (xs : List α) : Option β :=
  xs.reverse.findSome? f

section LastSome

variable {α β γ : Type} (f : α → Option β)

theorem lastSome?_append (xs ys : List α) :
    lastSome? f (xs ++ ys) = (lastSome? f ys).or (lastSome? f xs) := by
  rw [lastSome?, List.reverse_append, List.findSome?_append]
  rfl

theorem lastSome?_cons (x : α) (xs : List α) :
    lastSome? f (x :: xs) = (lastSome? f xs).or (f x) := by
  rw [← List.singleton_append, lastSome?_append]
  congr 1
  cases h : f x <;> simp [lastSome?, h]

theorem lastSome?_flatMap (g : γ → List α) (xs : List γ) :
    lastSome? f (xs.flatMap g) = lastSome? (fun x => lastSome? f (g x)) xs := by
  induction xs with
  | nil => rfl
  | cons x rest ih => rw [List.flatMap_cons, lastSome?_append, ih, lastSome?_cons]

@[simp]
theorem lastSome?_none (xs : List α) : lastSome? (fun _ => (none : Option β)) xs = none := by
  simp [lastSome?]

theorem lastSome?_eq_none_iff (xs : List α) :
    lastSome? f xs = none ↔ ∀ x ∈ xs, f x = none := by
  simp [lastSome?]

end LastSome

/-- A sample counts: it has a namespace or some figure that is not zero, and
    its namespace is on the list where there is one. -/
def PodSample.tells (allowed : AllowList) (s : PodSample) : Bool :=
  (s.ns ≠ "" || !s.storage.isEmpty) && allowed.all fun names => s.ns ∈ names

theorem PodSample.tells_eq (allowed : AllowList) (s : PodSample) :
    s.tells allowed = !s.isSkipped allowed := by
  unfold tells isSkipped AllowList.allows
  have hempty : s.ns.isEmpty = decide (s.ns = "") := by
    rw [Bool.eq_iff_iff, String.isEmpty_iff, decide_eq_true_iff]
  cases allowed <;> simp [hempty]

/-- A container's own limit is what its usage is measured against. -/
def ContainerProfile.isLimited (c : ContainerProfile) : Bool :=
  c.limit.any fun l => 0.0 < l

/-- What a container's usage is measured against, as its series say. -/
def ContainerProfile.source (c : ContainerProfile) : String :=
  if c.isLimited then "container" else "node"

/-- The containers of a profile with what is mounted into them, in order. -/
def PodProfile.mounted (p : PodProfile) : List (ContainerProfile × Mount) :=
  p.containers.flatMap fun c => c.mounts.map fun m => (c, m)

namespace PodSample

/-- What a sample reports of a volume: the first of that name counts. -/
def volume? (s : PodSample) (name : String) : Option VolumeFigures :=
  s.volumes.find? fun v => v.name = name

variable (fs : Features) (node : String) (s : PodSample) (p : PodProfile) (t : Series)

/-- The percentage that a sample has for a series of a container. -/
def containerFigure? : Option Float :=
  lastSome? (fun c =>
    if t.values = [s.name, s.ns, node, c.name, c.source] then
      some (Percentage.container s.storage.used c.limit s.storage.available s.storage.capacity).1
    else none) p.containers

/-- The usage that a sample has for a series of a volume. -/
def volumeFigure? : Option Float :=
  lastSome? (fun (c, m) =>
    if t.values = [s.name, s.ns, node, c.name, m.volume, m.path] then
      (s.volume? m.volume).map (·.used)
    else none) p.mounted

/-- The percentage that a sample has for a series of a volume. A mount without
    a positive size limit has none. -/
def volumePercentage? : Option Float :=
  lastSome? (fun (c, m) =>
    if t.values = [s.name, s.ns, node, c.name, m.volume, m.path] then
      (m.sizeLimit.filter fun l => 0.0 < l).bind fun l =>
        (s.volume? m.volume).map fun v => Percentage.volume v.used l
    else none) p.mounted

/-- The figure that a sample has for a series, given the profile of its pod if
    there is one. The label values are those of the sample and the node that
    was queried, and the family is turned on. -/
def figure? (profile : Option PodProfile) : Option Float :=
  match t.family with
  | .nodeAvailable =>
    if fs.nodeAvailable ∧ t.values = [node] then some s.storage.available else none
  | .nodeCapacity =>
    if fs.nodeCapacity ∧ t.values = [node] then some s.storage.capacity else none
  | .nodePercentage =>
    if fs.nodePercentage ∧ t.values = [node] then
      some (Percentage.node s.storage.available s.storage.capacity)
    else none
  | .podUsage =>
    if fs.podUsage ∧ t.values = [s.name, s.ns, node] then some s.storage.used else none
  | .inodes => if fs.inodes ∧ t.values = [s.name, s.ns, node] then s.storage.inodes else none
  | .inodesFree =>
    if fs.inodes ∧ t.values = [s.name, s.ns, node] then s.storage.inodesFree else none
  | .inodesUsed =>
    if fs.inodes ∧ t.values = [s.name, s.ns, node] then s.storage.inodesUsed else none
  | .containerLimitPercentage =>
    if fs.containerLimitPercentage then profile.bind fun p => s.containerFigure? node p t else none
  | .containerVolumeUsage =>
    if fs.containerVolumeUsage then profile.bind fun p => s.volumeFigure? node p t else none
  | .containerVolumeLimitPercentage =>
    if fs.containerVolumeLimitPercentage then
      profile.bind fun p => s.volumePercentage? node p t
    else none
  | .adjustedPollingRate => none

end PodSample

/-- The figure that a payload has for a series: that of the last sample that
    counts and has one. -/
def given? (o : Options) (e : Exporter) (node : String) (summary : Summary) (allowed : AllowList)
    (t : Series) : Option Float :=
  lastSome?
    (fun s => s.figure? o.features node t (if o.caching then e.profiles.find? s.name else none))
    (summary.pods.filter fun s => s.tells allowed)

/-- What some writes give to a series in the end. -/
def written? (t : Series) (ws : List Write) : Option Float :=
  lastSome? (fun w => if w.series = t then some w.value else none) ws

/-- What some writes come to is the last value that they give, or what was there. -/
theorem due_map_write (t : Series) (ws : List Write) (value : Option Float) :
    due t (ws.map .write) value = (written? t ws).or value := by
  -- By induction on the writes; what is there first may have been replaced by the next.
  induction ws generalizing value with
  | nil => rfl
  | cons w rest ih =>
      have hfirst : due t ((w :: rest).map .write) value =
          due t (rest.map .write) (if w.series = t then some w.value else value) := rfl
      have hlast : written? t (w :: rest) =
          (written? t rest).or (if w.series = t then some w.value else none) :=
        lastSome?_cons _ w rest
      rw [hfirst, ih, hlast, Option.or_assoc]
      congr 1
      by_cases hw : w.series = t <;> simp [hw]

/-- A series gets a value exactly if it is written. -/
theorem written?_ne_none_iff (t : Series) (ws : List Write) :
    written? t ws ≠ none ↔ ∃ w ∈ ws, w.series = t := by
  rw [written?, ne_eq, lastSome?_eq_none_iff]
  simp

section Written

variable (fs : Features) (node : String) (s : PodSample) (t : Series)

@[simp]
theorem written?_nil : written? t [] = none :=
  rfl

/-- The later of two parts decides, if it writes the series at all. -/
@[simp]
theorem written?_append (ws vs : List Write) :
    written? t (ws ++ vs) = (written? t vs).or (written? t ws) :=
  lastSome?_append _ ws vs

/-- A write under a feature gives its value to its own series, if the feature is on. -/
@[simp]
theorem written?_whenOn (on : Bool) (series : Series) (x : Float) :
    written? t (whenOn on series x) = if on ∧ series = t then some x else none := by
  cases on <;> simp [written?, whenOn, lastSome?]

/-- A figure that is absent gives nothing. -/
@[simp]
theorem written?_whenPresent (on : Bool) (series : Series) (x : Option Float) :
    written? t (whenPresent on series x) = if on ∧ series = t then x else none := by
  cases x <;> simp [whenPresent]

/-- Going through a list, the last element that writes the series decides. -/
theorem written?_flatMap {α : Type} (f : α → List Write) (xs : List α) :
    written? t (xs.flatMap f) = lastSome? (fun x => written? t (f x)) xs :=
  lastSome?_flatMap _ f xs

/-- Series are told apart by family and label values. -/
theorem Series.eq_iff (u : Series) : u = t ↔ u.family = t.family ∧ t.values = u.values := by
  constructor
  · rintro rfl
    exact ⟨rfl, rfl⟩
  · rintro ⟨hfamily, hvalues⟩
    cases u
    cases t
    cases hfamily
    cases hvalues
    rfl

/-- What the figures of a node give: each family has one series of the node. -/
theorem written?_nodeWrites :
    written? t (nodeWrites fs node s) =
      match t.family with
      | .nodeAvailable =>
        if fs.nodeAvailable ∧ t.values = [node] then some s.storage.available else none
      | .nodeCapacity =>
        if fs.nodeCapacity ∧ t.values = [node] then some s.storage.capacity else none
      | .nodePercentage =>
        if fs.nodePercentage ∧ t.values = [node] then
          some (Percentage.node s.storage.available s.storage.capacity)
        else none
      | _ => none := by
  rw [nodeWrites]
  simp only [written?_append, written?_whenOn, Series.eq_iff, Series.ofNode]
  cases t.family <;> simp

/-- What the figures of a pod give. Inodes may be absent from a sample. -/
theorem written?_podWrites :
    written? t (podWrites fs node s) =
      match t.family with
      | .podUsage =>
        if fs.podUsage ∧ t.values = [s.name, s.ns, node] then some s.storage.used else none
      | .inodes => if fs.inodes ∧ t.values = [s.name, s.ns, node] then s.storage.inodes else none
      | .inodesFree =>
        if fs.inodes ∧ t.values = [s.name, s.ns, node] then s.storage.inodesFree else none
      | .inodesUsed =>
        if fs.inodes ∧ t.values = [s.name, s.ns, node] then s.storage.inodesUsed else none
      | _ => none := by
  rw [podWrites]
  simp only [written?_append, written?_whenOn, written?_whenPresent, Series.eq_iff, Series.ofPod]
  cases t.family <;> simp

/-- The volume that is found for a mount has the name of the mount's. -/
theorem volumeWrites_eq (container : String) (m : Mount) :
    volumeWrites fs node s container m =
      match s.volume? m.volume with
      | some v =>
        whenOn fs.containerVolumeUsage
            (.ofVolume .containerVolumeUsage s.name s.ns node container m.volume m.path) v.used
          ++ whenPresent fs.containerVolumeLimitPercentage
              (.ofVolume .containerVolumeLimitPercentage s.name s.ns node container m.volume m.path)
              ((positive m.sizeLimit).map (Percentage.volume v.used))
      | none => [] := by
  rw [volumeWrites, PodSample.volume?]
  cases hfind : s.volumes.find? fun v => v.name = m.volume with
  | none => rfl
  | some v =>
      have hname : v.name = m.volume := by simpa using List.find?_some hfind
      simp only [hname]

/-- What a mount gives: the usage of its volume, and the part of its limit if it has
    one. -/
theorem written?_volumeWrites (container : String) (m : Mount) :
    written? t (volumeWrites fs node s container m) =
      if t.values = [s.name, s.ns, node, container, m.volume, m.path] then
        match t.family with
        | .containerVolumeUsage =>
          if fs.containerVolumeUsage then (s.volume? m.volume).map (·.used) else none
        | .containerVolumeLimitPercentage =>
          if fs.containerVolumeLimitPercentage then
            (m.sizeLimit.filter fun l => 0.0 < l).bind fun l =>
              (s.volume? m.volume).map fun v => Percentage.volume v.used l
          else none
        | _ => none
      else none := by
  rw [volumeWrites_eq]
  -- A mount whose volume the sample does not have gives nothing.
  cases hfind : s.volume? m.volume with
  | none => cases t.family <;> simp
  | some v =>
      simp only [written?_append, written?_whenOn, written?_whenPresent, Series.eq_iff,
        Series.ofVolume, positive]
      by_cases hvalues : t.values = [s.name, s.ns, node, container, m.volume, m.path]
      · cases t.family with
        | containerVolumeLimitPercentage =>
            -- The volume is there, so only the limit can be absent.
            have hmap : ∀ limit : Option Float, limit.map (Percentage.volume v.used) =
                limit.bind fun l => some (Percentage.volume v.used l) := by
              rintro (_ | l) <;> rfl
            simp [hvalues, hmap]
        | _ => simp [hvalues]
      · simp [hvalues]

/-- A container is measured against its own limit exactly if it declares a
    positive one. -/
theorem label_container (c : ContainerProfile) (used available capacity : Float) :
    (Percentage.container used c.limit available capacity).2.label = c.source := by
  unfold Percentage.container
  split
  · rename_i l husable
    rcases Option.filter_eq_some_iff.mp husable with ⟨hlimit, hpositive⟩
    have hlimited : c.isLimited = true := by
      rw [ContainerProfile.isLimited, hlimit]
      exact hpositive
    rw [ContainerProfile.source, if_pos hlimited]
    rfl
  · rename_i husable
    have hlimited : c.isLimited = false := by
      rw [ContainerProfile.isLimited, Option.any_eq_false]
      exact fun l hl => Bool.eq_false_iff.mpr (Option.filter_eq_none_iff.mp husable l hl)
    rw [ContainerProfile.source, hlimited]
    -- Whether the node can be a denominator or not, it is what is named.
    split <;> rfl

/-- What a container gives. Its mounts are written after it, but they are of other
    families. -/
theorem written?_containerWrites (c : ContainerProfile) :
    written? t (containerWrites fs node s c) =
      (lastSome? (fun m => written? t (volumeWrites fs node s c.name m)) c.mounts).or
        (if t.family = .containerLimitPercentage ∧ fs.containerLimitPercentage ∧
            t.values = [s.name, s.ns, node, c.name, c.source] then
          some (Percentage.container s.storage.used c.limit s.storage.available
            s.storage.capacity).1
        else none) := by
  rw [containerWrites]
  simp only [written?_append, written?_flatMap, written?_whenOn, Series.eq_iff, Series.ofContainer,
    label_container]
  -- In another family the container itself gives nothing.
  congr 1
  by_cases hfamily : t.family = .containerLimitPercentage
  · simp [hfamily]
  · simp [hfamily, Ne.symm hfamily]

/-- Going through the mounts of each container is going through all that is
    mounted. -/
theorem lastSome?_mounted (p : PodProfile) (f : ContainerProfile × Mount → Option Float) :
    lastSome? (fun c => lastSome? (fun m => f (c, m)) c.mounts) p.containers =
      lastSome? f p.mounted := by
  rw [PodProfile.mounted, lastSome?_flatMap]
  congr 1
  funext c
  unfold lastSome?
  rw [← List.map_reverse, List.findSome?_map]
  rfl

/-- What a profile gives, family by family: the last container or mount that has the
    label values of the series. -/
theorem written?_profileWrites (profile : Option PodProfile) :
    written? t (profileWrites fs node s profile) =
      match t.family with
      | .containerLimitPercentage =>
        if fs.containerLimitPercentage then profile.bind fun p => s.containerFigure? node p t
        else none
      | .containerVolumeUsage =>
        if fs.containerVolumeUsage then profile.bind fun p => s.volumeFigure? node p t else none
      | .containerVolumeLimitPercentage =>
        if fs.containerVolumeLimitPercentage then
          profile.bind fun p => s.volumePercentage? node p t
        else none
      | _ => none := by
  cases profile with
  | none => cases t.family <;> simp [profileWrites]
  | some p =>
      rw [profileWrites, written?_flatMap]
      simp only [written?_containerWrites, written?_volumeWrites, Option.bind_some,
        PodSample.containerFigure?, PodSample.volumeFigure?, PodSample.volumePercentage?,
        ← lastSome?_mounted]
      -- Only the families of containers and their volumes are left.
      cases t.family with
      | containerLimitPercentage => by_cases hon : fs.containerLimitPercentage <;> simp [hon]
      | containerVolumeUsage => by_cases hon : fs.containerVolumeUsage <;> simp [hon]
      | containerVolumeLimitPercentage =>
          by_cases hon : fs.containerVolumeLimitPercentage <;> simp [hon]
      | _ => simp

end Written

/-- A cached profile is used wherever some family needs it. -/
theorem written?_profileWrites_profileOf (o : Options) (e : Exporter) (node : String)
    (s : PodSample) (t : Series) :
    written? t (profileWrites o.features node s (e.profileOf o s.name)) =
      written? t (profileWrites o.features node s
        (if o.caching then e.profiles.find? s.name else none)) := by
  unfold Exporter.profileOf
  by_cases hneeds : o.features.needsPodProfiles = true
  · simp only [hneeds, Bool.true_and]
  · -- No family of containers is turned on, so no profile would write anything.
    simp only [Features.needsPodProfiles, Bool.or_eq_true, not_or] at hneeds
    simp only [written?_profileWrites, hneeds]
    cases t.family <;> simp

/-- What a sample writes to a series is the figure that it has for it. -/
theorem written?_sampleWrites (o : Options) (e : Exporter) (node : String) (s : PodSample)
    (t : Series) :
    written? t (sampleWrites o e node s) =
      s.figure? o.features node t (if o.caching then e.profiles.find? s.name else none) := by
  rw [sampleWrites, written?_append, written?_append, written?_profileWrites_profileOf,
    -- Node, pod and containers write to different families, so at most one part counts.
    written?_nodeWrites, written?_podWrites, written?_profileWrites, PodSample.figure?]
  cases t.family <;> simp

/-- What a payload writes to a series is the figure that it has for it. -/
theorem written?_summaryWrites (o : Options) (e : Exporter) (node : String) (summary : Summary)
    (allowed : AllowList) (t : Series) :
    written? t (summaryWrites o e node summary allowed) = given? o e node summary allowed t := by
  rw [summaryWrites, written?_flatMap, given?]
  simp only [written?_sampleWrites, PodSample.tells_eq]

namespace Store

/-- Series that share a gauge are found by the same gauges. -/
theorem gauge?_congr (st : Store) (s t : Series) (h : s.sharesGauge t = true) :
    st.gauge? s = st.gauge? t := by
  unfold gauge?
  congr 1
  funext g
  rw [Gauge.serves, Gauge.serves, Bool.eq_iff_iff]
  have hback : t.sharesGauge s = true := Series.sharesGauge_comm s t ▸ h
  exact ⟨fun hs => Series.sharesGauge_trans _ s t hs h,
    fun ht => Series.sharesGauge_trans _ t s ht hback⟩

/-- A write is read of every live series that shares the gauge. -/
theorem get?_set_of_shares (st : Store) (s t : Series) (x : Float)
    (hshares : s.sharesGauge t = true) (hlive : t = s ∨ t ∈ st.index) :
    (st.set s x).get? t = some x := by
  have htracks : (st.set s x).tracks t = true :=
    (tracks_iff _ t).mpr ((mem_index_set st s t x).mpr hlive)
  rcases gauge?_set_self st s x with ⟨g, hg, hvalue⟩
  rw [gauge?_congr _ s t hshares] at hg
  rw [get?, if_pos htracks, hg]
  exact congrArg some hvalue

/-- What is read after some writes: the last value that was written to the gauge
    of a live series, by whatever series. -/
theorem get?_applyAll_of_live (st : Store) (ws : List Write) (t : Series)
    (hlive : t ∈ (st.applyAll ws).index) :
    (st.applyAll ws).get? t =
      (lastSome? (fun w => if w.series.sharesGauge t then some w.value else none) ws).or
        (st.get? t) := by
  -- By induction from the last write, which is the one that decides if it is to the
  -- gauge.
  induction ws using List.reverseRecOn with
  | nil => rfl
  | append_singleton ws w ih =>
      have hlast : st.applyAll (ws ++ [w]) = (st.applyAll ws).set w.series w.value :=
        List.foldl_append
      rw [hlast, mem_index_set] at hlive
      rw [hlast, lastSome?_append]
      by_cases hshares : w.series.sharesGauge t = true
      · rw [get?_set_of_shares _ _ t _ hshares hlive]
        simp [lastSome?, hshares]
      · -- The last write leaves the gauge, and a series that is not written was live before.
        have hbefore : t ∈ (st.applyAll ws).index := by
          refine hlive.resolve_left ?_
          rintro rfl
          exact hshares (Series.sharesGauge_self _)
        rw [get?_set_of_apart _ _ t _ (Bool.eq_false_iff.mpr hshares), ih hbefore]
        simp [lastSome?, hshares]

end Store

/-- After a payload was written the series are live that were live before and
    those it has a figure for. A live series shows the last value that was
    written to its gauge, by whatever series. So a series that has its gauge for
    itself, among those with a figure, holds the figure that the payload has for
    it, and without one the value that it held before, or none. -/
theorem process_gives (o : Options) (e : Exporter) (node : String) (summary : Summary)
    (allowed : AllowList) :
    (∀ t, t ∈ (e.process o node summary allowed).store.index ↔
      t ∈ e.store.index ∨ given? o e node summary allowed t ≠ none) ∧
    (∀ t, t ∈ (e.process o node summary allowed).store.index →
      (e.process o node summary allowed).store.get? t =
        (lastSome? (fun w => if w.series.sharesGauge t then some w.value else none)
          (summaryWrites o e node summary allowed)).or (e.store.get? t)) ∧
    ∀ t, (∀ u, u ≠ t → u.sharesGauge t = true → given? o e node summary allowed u = none) →
      (e.process o node summary allowed).store.get? t =
        (given? o e node summary allowed t).or (e.store.get? t) := by
  refine ⟨fun t => ?_, fun t hlive => ?_, fun t halone => ?_⟩
  · -- A series is written exactly if the payload has a figure for it.
    rw [← written?_summaryWrites, written?_ne_none_iff]
    exact Store.mem_index_applyAll e.store _ t
  · exact Store.get?_applyAll_of_live e.store _ t hlive
  · have hapart : ∀ w ∈ summaryWrites o e node summary allowed, w.series ≠ t →
        w.series.sharesGauge t = false := by
      intro w hw hne
      rw [← Bool.not_eq_true]
      intro hshares
      -- Another series that shares the gauge is written, so it has a figure.
      refine (written?_ne_none_iff w.series _).mpr ⟨w, hw, rfl⟩ ?_
      rw [written?_summaryWrites]
      exact halone w.series hne hshares
    rw [← written?_summaryWrites, ← due_map_write]
    exact Store.get?_applyAll e.store _ t hapart

/-- A sample of a pod that has nothing but its usage. -/
def usageSample (name ns : String) (used : Float) : PodSample :=
  { name, ns, storage := { StorageFigures.zero with used }, volumes := [] }

/-- Pod usage alone is turned on. -/
def usageOnly : Options :=
  { Options.standard with features := Features.ofTest fun f => f = .podUsage }

/-- The usage of a pod whose gauge is its own is read after a payload. -/
theorem process_gives_usage :
    (Exporter.process usageOnly (.initial .empty) "node"
        { nodeName := "", pods := [usageSample "web" "blue" 7.0] } none).store.get?
      (.ofPod .podUsage "web" "blue" "node") = some 7.0 := by
  refine ((process_gives usageOnly (.initial .empty) "node" _ none).2.2 _ ?_).trans rfl
  intro u hne hshares
  -- Of the family that is turned on, only the series itself gets a figure.
  have hfamily : u.family = .podUsage := ((Series.sharesGauge_iff _ _).mp hshares).1
  have hvalues : u.values ≠ ["web", "blue", "node"] := fun heq =>
    hne ((Series.eq_iff _ u).mpr ⟨hfamily, heq.symm⟩)
  simp [given?, lastSome?, PodSample.figure?, hfamily, usageSample, hvalues]

/-- What is read of a series after a payload is not always the figure that the
    payload has for it. -/
theorem process_mixes_figures :
    ¬ ∀ (o : Options) (e : Exporter) (node : String) (summary : Summary) (allowed : AllowList)
      (t : Series), (e.process o node summary allowed).store.get? t =
        (given? o e node summary allowed t).or (e.store.get? t) := by
  intro h
  -- Two samples of pods whose names and namespaces join to one text.
  have hread := h usageOnly (.initial .empty) "n"
    { nodeName := "", pods := [usageSample "ab" "c" 1.0, usageSample "a" "bc" 2.0] } none
    (.ofPod .podUsage "ab" "c" "n")
  have hgiven : given? usageOnly (.initial .empty) "n"
      { nodeName := "", pods := [usageSample "ab" "c" 1.0, usageSample "a" "bc" 2.0] } none
      (.ofPod .podUsage "ab" "c" "n") = some 1.0 := by rfl
  have hlast : (Exporter.process usageOnly (.initial .empty) "n"
      { nodeName := "", pods := [usageSample "ab" "c" 1.0, usageSample "a" "bc" 2.0] }
      none).store.get? (.ofPod .podUsage "ab" "c" "n") = some 2.0 := by rfl
  rw [hgiven, hlast, Option.some_or] at hread
  exact absurd (Option.some.inj hread) (by decide)

end StorageGauges
