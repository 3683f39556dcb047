import Mathlib.Data.List.Forall2
import StorageGauges.Proofs.Pods.Captured

/-!
# What Profiles Are Made From

A profile is made from the document of a running pod. Its containers are those of
the specification, one for one and in order. A container has a limit if the
document declares one that is a quantity. It has the mounts whose volume is
temporary, in order and with repeats, and a mount has the size limit of the last
temporary volume of its name, if that one declares any. What is not captured is
left out, and nothing else changes.

The volumes of a pod are joined with the mounts of its containers by their names,
and names may be there twice on both sides. A volume of another sort does not
take the place of a temporary one, wherever it stands: the last temporary volume
of a name is one behind which no other temporary volume has the name
(`Pod.IsLastTemporary`).

## Main definitions

* `Pod.containersIn`, `Pod.volumesIn`, `Pod.mountsIn`: The parts of a document.
* `Pod.IsLastTemporary`: A volume is the last temporary one of a name.
* `Pod.MountSpecified`, `Pod.ContainerSpecified`: A mount and a container of a
  profile are what a document says of them.

## Theorems

* `Pod.volume?_eq_some_iff`: The volumes that mounts find.
* `Pod.mountProfile?_eq_some_iff`, `Pod.containerSpecified_iff`: Mounts and
  containers.
* `Pod.profile_as_specified`: Profiles.
-/

namespace StorageGauges

section OneForOne

variable {α β : Type} {R : α → β → Prop}

/-- What a function makes of the elements that it keeps, one for one. -/
theorem forall₂_filter_iff {f : α → Option β} {test : α → Bool}
    (htest : ∀ a, test a = (f a).isSome) (hR : ∀ a b, R a b ↔ f a = some b) (l : List α)
    (bs : List β) : List.Forall₂ R (l.filter test) bs ↔ bs = l.filterMap f := by
  -- An element that is dropped by the filter gives nothing, and one that is kept gives
  -- one.
  induction l generalizing bs with
  | nil => exact List.forall₂_nil_left_iff
  | cons a rest ih =>
      have hkept := htest a
      cases hf : f a with
      | none =>
          rw [hf] at hkept
          rw [List.filter_cons_of_neg (by simp [hkept]), List.filterMap_cons_none hf, ih]
      | some b =>
          rw [hf] at hkept
          rw [List.filter_cons_of_pos hkept, List.filterMap_cons_some hf,
            List.forall₂_cons_left_iff]
          constructor
          · rintro ⟨b', bs', hb, hbs, rfl⟩
            rw [Option.some.inj (hf.symm.trans ((hR a b').mp hb)), (ih bs').mp hbs]
          · rintro rfl
            exact ⟨b, rest.filterMap f, (hR a b).mpr hf, (ih _).mpr rfl, rfl⟩

/-- What a function makes of all elements, one for one. -/
theorem forall₂_iff_eq_map {f : α → β} (hR : ∀ a b, R a b ↔ b = f a) (l : List α) (bs : List β) :
    List.Forall₂ R l bs ↔ bs = l.map f := by
  have hR' : R = fun a b => f a = b := funext fun a => funext fun b =>
    propext ((hR a b).trans eq_comm)
  rw [hR', ← List.forall₂_map_left_iff, List.forall₂_eq_eq_eq, eq_comm]

end OneForOne

namespace Pod

/-! ### The parts of a document -/

/-- The phase of a pod. -/
def phaseIn (doc : Json) : Option String :=
  ((doc.field "status").field "phase").text?

/-- The containers of a pod. -/
def containersIn (doc : Json) : List Json :=
  ((doc.field "spec").field "containers").elements

/-- The volumes of a pod, of all sorts. -/
def volumesIn (doc : Json) : List Json :=
  ((doc.field "spec").field "volumes").elements

/-- The name of a container or a volume, and of the volume that is mounted. -/
def nameIn (v : Json) : String :=
  Object.textField v "name"

/-- The limit of a container. -/
def limitIn (c : Json) : Option String :=
  (((c.field "resources").field "limits").field "ephemeral-storage").text?

/-- The mounts of a container. -/
def mountsIn (c : Json) : List Json :=
  (c.field "volumeMounts").elements

/-- Where a volume is mounted. -/
def pathIn (m : Json) : String :=
  Object.textField m "mountPath"

/-- A volume is a temporary one. -/
def isTemporary (v : Json) : Bool :=
  !(v.field "emptyDir").isNull

/-- The size limit of a temporary volume. -/
def sizeLimitIn (v : Json) : Option String :=
  ((v.field "emptyDir").field "sizeLimit").text?

/-- The mounts whose volume has the name of a temporary one. -/
def temporaryMountsIn (volumes : List Json) (c : Json) : List Json :=
  (mountsIn c).filter fun m => volumes.any fun v => isTemporary v && nameIn v == nameIn m

/-! ### What is said of them -/

/-- There is a size exactly when there is a text that is a quantity. -/
def IsSizeOf (text : Option String) (size : Option Float) : Prop :=
  ∀ x, size = some x ↔ ∃ s, text = some s ∧ Quantity.parse? s = some x

/-- A volume is temporary and has a name, and no temporary one behind it has it. -/
def IsLastTemporary (volumes : List Json) (name : String) (v : Json) : Prop :=
  ∃ before after, volumes = before ++ v :: after ∧ isTemporary v = true ∧ nameIn v = name ∧
    ∀ w ∈ after, isTemporary w = true → nameIn w ≠ name

/-- A mount of a profile is what a document says. -/
structure MountSpecified (volumes : List Json) (m : Json) (mount : Mount) : Prop where
  volume : mount.volume = nameIn m
  path : mount.path = pathIn m
  size : ∃ v, IsLastTemporary volumes (nameIn m) v ∧ IsSizeOf (sizeLimitIn v) mount.sizeLimit

/-- A container of a profile is what a document says, as far as it is captured. -/
structure ContainerSpecified (what : Captured) (volumes : List Json) (c : Json)
    (profile : ContainerProfile) : Prop where
  name : profile.name = nameIn c
  limit : what.containerLimits = true → IsSizeOf (limitIn c) profile.limit
  no_limit : what.containerLimits = false → profile.limit = none
  mounts : what.volumes = true →
    List.Forall₂ (MountSpecified volumes) (temporaryMountsIn volumes c) profile.mounts
  no_mounts : what.volumes = false → profile.mounts = []

/-! ### Sizes and volumes -/

/-- A size is what the text reads as, if there is a text and it can be read. -/
theorem isSizeOf_iff (text : Option String) (size : Option Float) :
    IsSizeOf text size ↔ size = text.bind Quantity.parse? := by
  simp only [IsSizeOf, ← Option.bind_eq_some_iff]
  exact Option.ext_iff.symm

/-- A volume is temporary and has a name. -/
def isTemporaryNamed (name : String) (v : Json) : Bool :=
  isTemporary v && nameIn v == name

/-- A temporary volume is read with its name and its size limit. -/
theorem volumeOf?_of_isTemporary {v : Json} (h : isTemporary v = true) :
    volumeOf? v = some { name := nameIn v, sizeLimit := sizeLimitIn v } := by
  rw [isTemporary, Bool.not_eq_true'] at h
  rw [volumeOf?]
  simp only [h, Bool.false_eq_true, if_false]
  rfl

/-- Looking for a name among the volumes that were read is looking for it in the
    document. -/
theorem any_volumeOf? (name : String) (v : Json) :
    ((volumeOf? v).any fun volume => volume.name = name) = isTemporaryNamed name v := by
  cases h : isTemporary v with
  | true =>
      rw [volumeOf?_of_isTemporary h, isTemporaryNamed, h, Bool.true_and]
      rfl
  | false =>
      have hnull : (v.field "emptyDir").isNull = true := by
        rwa [isTemporary, Bool.not_eq_false'] at h
      simp [volumeOf?, hnull, isTemporaryNamed, h]

/-- The first one that a search from the end comes to is the last one. -/
theorem find?_reverse_eq_some_iff (volumes : List Json) (name : String) (v : Json) :
    volumes.reverse.find? (isTemporaryNamed name) = some v ↔ IsLastTemporary volumes name v := by
  rw [List.find?_eq_some_iff_append]
  simp only [isTemporaryNamed, Bool.and_eq_true, beq_iff_eq, Bool.not_eq_true',
    Bool.and_eq_false_imp, beq_eq_false_iff_ne]
  constructor
  · -- The search began at the end, so what it passed over stands behind the volume.
    rintro ⟨⟨htemporary, hname⟩, after, before, hvolumes, hafter⟩
    refine ⟨before.reverse, after.reverse, ?_, htemporary, hname, ?_⟩
    · rw [← List.reverse_reverse volumes, hvolumes, List.reverse_append, List.reverse_cons,
        List.append_assoc, List.singleton_append]
    · intro w hw
      exact hafter w (List.mem_reverse.mp hw)
  · rintro ⟨before, after, rfl, htemporary, hname, hafter⟩
    refine ⟨⟨htemporary, hname⟩, after.reverse, before.reverse, ?_, ?_⟩
    · rw [List.reverse_append, List.reverse_cons, List.append_assoc, List.singleton_append]
    · intro w hw
      exact hafter w (List.mem_reverse.mp hw)

section Document

variable {p : Pod} {volumes : List Json}

/-- The volume that a mount finds is made from the last temporary one of its name. -/
theorem volume?_eq_some_iff (hvolumes : p.volumes = volumes.filterMap volumeOf?) (name : String)
    (volume : TemporaryVolume) :
    p.volume? name = some volume ↔
      ∃ v, IsLastTemporary volumes name v ∧
        volume = { name := name, sizeLimit := sizeLimitIn v } := by
  have hfind : p.volume? name =
      (volumes.reverse.find? (isTemporaryNamed name)).bind volumeOf? := by
    rw [volume?, hvolumes, ← List.filterMap_reverse, List.find?_filterMap]
    simp only [any_volumeOf?]
  rw [hfind, Option.bind_eq_some_iff]
  simp only [find?_reverse_eq_some_iff]
  -- A volume that is the last one of its name has the name.
  refine exists_congr fun v => and_congr_right fun hlast => ?_
  rcases hlast with ⟨before, after, -, htemporary, hname, -⟩
  rw [volumeOf?_of_isTemporary htemporary, hname, Option.some.injEq]
  exact eq_comm

/-- A mount finds a volume exactly if some temporary one has its name. -/
theorem isSome_volume? (hvolumes : p.volumes = volumes.filterMap volumeOf?) (name : String) :
    (p.volume? name).isSome = volumes.any (isTemporaryNamed name) := by
  rw [volume?, List.isSome_find?, List.any_reverse, hvolumes, List.any_filterMap]
  exact congrArg volumes.any (funext fun v => any_volumeOf? name v)

/-! ### Mounts and containers -/

/-- A mount in a document. -/
def mountOf (m : Json) : VolumeMount :=
  { volume := nameIn m, path := pathIn m }

/-- A mount with a temporary volume is read as it is specified, and no other mount
    is. -/
theorem mountProfile?_eq_some_iff (hvolumes : p.volumes = volumes.filterMap volumeOf?) (m : Json)
    (mount : Mount) :
    p.mountProfile? (mountOf m) = some mount ↔ MountSpecified volumes m mount := by
  rw [mountProfile?, Option.map_eq_some_iff]
  simp only [volume?_eq_some_iff hvolumes]
  constructor
  · rintro ⟨volume, ⟨v, hlast, rfl⟩, rfl⟩
    exact ⟨rfl, rfl, v, hlast, (isSizeOf_iff _ _).mpr rfl⟩
  · rintro ⟨hvolume, hpath, v, hlast, hsize⟩
    refine ⟨_, ⟨v, hlast, rfl⟩, ?_⟩
    rcases mount with ⟨volume, path, size⟩
    rw [isSizeOf_iff] at hsize
    exact congr (congrArg₂ Mount.mk hvolume.symm hpath.symm) hsize.symm

/-- The mounts of a container of a profile are those with a temporary volume. -/
theorem forall₂_mountSpecified_iff (hvolumes : p.volumes = volumes.filterMap volumeOf?) (c : Json)
    (mounts : List Mount) :
    List.Forall₂ (MountSpecified volumes) (temporaryMountsIn volumes c) mounts ↔
      mounts = (containerOf c).mounts.filterMap p.mountProfile? := by
  -- The filter of the document and the reader keep the same mounts.
  have htest : ∀ m, (volumes.any fun v => isTemporary v && nameIn v == nameIn m) =
      (p.mountProfile? (mountOf m)).isSome := by
    intro m
    rw [mountProfile?, Option.isSome_map]
    exact (isSome_volume? hvolumes (nameIn m)).symm
  rw [temporaryMountsIn, forall₂_filter_iff htest fun m mount =>
    (mountProfile?_eq_some_iff hvolumes m mount).symm]
  show _ ↔ mounts = ((mountsIn c).map mountOf).filterMap p.mountProfile?
  rw [List.filterMap_map]
  rfl

/-- Just one container of a profile is what a document says. -/
theorem containerSpecified_iff (hvolumes : p.volumes = volumes.filterMap volumeOf?)
    (what : Captured) (c : Json) (profile : ContainerProfile) :
    ContainerSpecified what volumes c profile ↔
      profile = p.containerProfile what (containerOf c) := by
  constructor
  · rintro ⟨hname, hlimit, hnolimit, hmounts, hnomounts⟩
    have hlimits : profile.limit =
        if what.containerLimits then (limitIn c).bind Quantity.parse? else none := by
      -- Each part is decided by whether it is captured.
      split
      · exact (isSizeOf_iff _ _).mp (hlimit ‹_›)
      · exact hnolimit (Bool.eq_false_iff.mpr ‹_›)
    have hall : profile.mounts =
        if what.volumes then (containerOf c).mounts.filterMap p.mountProfile? else [] := by
      split
      · exact (forall₂_mountSpecified_iff hvolumes c _).mp (hmounts ‹_›)
      · exact hnomounts (Bool.eq_false_iff.mpr ‹_›)
    rcases profile with ⟨name, limit, mounts⟩
    exact congr (congrArg₂ ContainerProfile.mk hname hlimits) hall
  · rintro rfl
    refine ⟨rfl, ?_, ?_, ?_, ?_⟩
    · intro hon
      exact (isSizeOf_iff _ _).mpr (if_pos hon)
    · intro hoff
      exact if_neg (Bool.eq_false_iff.mp hoff)
    · intro hon
      exact (forall₂_mountSpecified_iff hvolumes c _).mpr (if_pos hon)
    · intro hoff
      exact if_neg (Bool.eq_false_iff.mp hoff)

end Document

/-! ### Profiles -/

/-- What is read of a pod is its phase, its containers and its temporary volumes. -/
theorem ofJson?_eq_some {doc : Json} {p : Pod} (h : ofJson? doc = some p) :
    p.phase = phaseIn doc ∧ p.containers = (containersIn doc).map containerOf ∧
      p.volumes = (volumesIn doc).filterMap volumeOf? := by
  unfold ofJson? at h
  rcases Option.ite_none_right_eq_some.mp h with ⟨-, heq⟩
  rw [← Option.some.inj heq]
  exact ⟨rfl, rfl, rfl⟩

/-- A pod that runs has the profile whose containers are as specified, one for one. -/
theorem profile?_eq_some_iff {doc : Json} {p : Pod} (h : ofJson? doc = some p) (what : Captured)
    (profile : PodProfile) :
    p.profile? what = some profile ↔
      phaseIn doc = some "Running" ∧
        List.Forall₂ (ContainerSpecified what (volumesIn doc)) (containersIn doc)
          profile.containers := by
  rcases ofJson?_eq_some h with ⟨hphase, hcontainers, hvolumes⟩
  rw [forall₂_iff_eq_map (containerSpecified_iff hvolumes what), profile?,
    Option.ite_none_right_eq_some, isRunning, beq_iff_eq, hphase, hcontainers, List.map_map]
  refine and_congr_right fun _ => ?_
  rw [Option.some.injEq]
  constructor
  · rintro rfl
    rfl
  · rintro hprofile
    rcases profile with ⟨containers⟩
    exact congrArg PodProfile.mk hprofile.symm

/-- A pod has a profile exactly when its document says that it runs, and the profile
    is the one whose containers are what the document says of them, in order. Without
    a specification there are none. What is captured decides about nothing but what
    is left out. -/
theorem profile_as_specified {doc : Json} {p : Pod} (hread : ofJson? doc = some p)
    (what : Captured) :
    ((p.profile? what).isSome = true ↔ phaseIn doc = some "Running") ∧
      (∀ profile, p.profile? what = some profile ↔
        phaseIn doc = some "Running" ∧
          List.Forall₂ (ContainerSpecified what (volumesIn doc)) (containersIn doc)
            profile.containers) ∧
      ((doc.field "spec").isNull = true →
        ∀ profile, p.profile? what = some profile → profile.containers = []) ∧
      p.profile? what = (p.profile? .everything).map (·.only what) := by
  refine ⟨?_, profile?_eq_some_iff hread what, ?_, profile?_eq_only p what⟩
  · rw [← (ofJson?_eq_some hread).1, profile?, Option.isSome_ite, isRunning, beq_iff_eq]
    rfl
  · intro hnull profile hprofile
    -- Nothing can be read of the containers where there is no specification.
    have hnone : containersIn doc = [] := by
      rw [containersIn]
      cases hspec : doc.field "spec" <;> rw [hspec] at hnull <;>
        first | rfl | exact absurd hnull (by simp [Json.isNull])
    have hcontainers := ((profile?_eq_some_iff hread what profile).mp hprofile).2
    rw [hnone] at hcontainers
    exact List.forall₂_nil_left_iff.mp hcontainers

/-- A running pod with two temporary volumes of one name, the second of which has no
    size limit, and another volume of that name behind them. -/
def sameNames : Json :=
  Json.ofMembers
    [("metadata", Json.ofMembers [("name", Json.ofText "web")]),
      ("status", Json.ofMembers [("phase", Json.ofText "Running")]),
      ("spec", Json.ofMembers
        [("containers", .array
          [Json.ofMembers
            [("name", Json.ofText "app"),
              ("volumeMounts", .array
                [Json.ofMembers
                  [("name", Json.ofText "tmp"), ("mountPath", Json.ofText "/tmp")]])]]),
          ("volumes", .array
            [Json.ofMembers
              [("name", Json.ofText "tmp"),
                ("emptyDir", Json.ofMembers [("sizeLimit", Json.ofText "1Gi")])],
            Json.ofMembers [("name", Json.ofText "tmp"), ("emptyDir", Json.ofMembers [])],
            Json.ofMembers
              [("name", Json.ofText "tmp"),
                ("configMap", Json.ofMembers [("name", Json.ofText "tmp")])]])])]

/-- What is read of it. -/
def sameNamesPod : Pod :=
  { name := "web"
    phase := some "Running"
    containers :=
      [{ name := "app", limit := none, mounts := [{ volume := "tmp", path := "/tmp" }] }]
    volumes := [{ name := "tmp", sizeLimit := some "1Gi" }, { name := "tmp", sizeLimit := none }] }

/-- The mount gets the second of the volumes, so it has no size limit. -/
theorem profile_as_specified_sameNames :
    ofJson? sameNames = some sameNamesPod ∧
      (sameNamesPod.profile? .everything).isSome = true ∧
      ∀ profile, sameNamesPod.profile? .everything = some profile →
        List.Forall₂ (ContainerSpecified .everything (volumesIn sameNames))
          (containersIn sameNames) profile.containers := by
  have hread : ofJson? sameNames = some sameNamesPod := by decide +kernel
  have hspecified := profile_as_specified hread .everything
  refine ⟨hread, hspecified.1.mpr (by decide +kernel), fun profile hprofile => ?_⟩
  exact ((hspecified.2.1 profile).mp hprofile).2

end Pod

end StorageGauges
