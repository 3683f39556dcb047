import Mathlib.Data.List.TakeWhile
import StorageGauges.Proofs.Url.Addresses
import StorageGauges.Url.Basic

/-!
# Reading a Text of the Web

How a URL of the web is read when it is put together from a scheme, a place and
a path. The place is whatever is between the two slashes and the next one, and
as long as it has only the characters of addresses, nothing in it is a name, a
password or a blank.

Where the host ends in the place is a matter of its colons: it ends at the first
one, unless there are brackets. So an address that has colons itself has to be
in brackets. Without them a part of it counts as the port, and a port with a
colon in it is no number.

## Theorems

* `cleaned_of_visible`: Nothing is removed from a text without blanks.
* `read?_web`: A text is read as the place and the path behind its scheme.
* `takeHost_append`: The host ends at the first colon.
* `assemble?_eq`: The URL with a place that is a host and a port.
* `port?_ofNatText`: A port is read, and the usual one dropped.
* `port?_of_colon`: A port has no colon.
-/

namespace StorageGauges

namespace Url

/-- Nothing is removed from a text without blanks. -/
theorem cleaned_of_visible {s : List Char} (h : ∀ c ∈ s, 0x20 < c.toNat) : cleaned s = s := by
  -- Blanks are cut off from both ends in the same way.
  have hedge : ∀ t : List Char, (∀ c ∈ t, 0x20 < c.toNat) →
      t.dropWhile (fun c => decide (c.toNat ≤ 0x20)) = t := by
    intro t ht
    refine List.dropWhile_eq_self_iff.mpr fun hlength hblank => ?_
    have hvisible := ht _ (List.getElem_mem hlength)
    have hsmall := of_decide_eq_true hblank
    omega
  have hback : ∀ c ∈ s.reverse, 0x20 < c.toNat := fun c hc => h c (List.mem_reverse.mp hc)
  simp only [cleaned, hedge s h, hedge s.reverse hback, List.reverse_reverse]
  refine List.filter_eq_self.mpr fun c hc => ?_
  have hvisible := h c hc
  have hignored : isIgnored c = false := by
    refine Bool.eq_false_iff.mpr fun hblank => ?_
    simp only [isIgnored, Bool.or_eq_true, decide_eq_true_iff] at hblank
    rcases hblank with (rfl | rfl) | rfl <;> exact absurd hvisible (by decide)
  rw [hignored]
  rfl

/-- The two schemes of the web are read as they are written. -/
theorem scheme?_web {scheme : String} (hweb : scheme = "http" ∨ scheme = "https")
    (rest : List Char) : scheme? (scheme.toList ++ ':' :: rest) = some (scheme, rest) := by
  rcases hweb with rfl | rfl
  · rfl
  · rfl

theorem isSpecial_web {scheme : String} (hweb : scheme = "http" ∨ scheme = "https") :
    isSpecial scheme = true := by
  rcases hweb with rfl | rfl
  · rfl
  · rfl

/-- Behind the scheme the place goes up to the next slash. -/
theorem authority?_web {scheme : String} (hweb : scheme = "http" ∨ scheme = "https")
    {place : List Char} (hplace : ∀ c ∈ place, endsAuthority true c = false) (hne : place ≠ [])
    (path : List Char) :
    authority? scheme ('/' :: '/' :: (place ++ '/' :: path)) = some (place, '/' :: path) := by
  have hspecial := isSpecial_web hweb
  have hfile : scheme ≠ "file" := by
    rcases hweb with rfl | rfl <;> decide
  -- The place begins with no slash, so only the two before it are skipped.
  have hskip : ('/' :: '/' :: (place ++ '/' :: path)).dropWhile (isSlash true) =
      place ++ '/' :: path := by
    rcases List.exists_cons_of_ne_nil hne with ⟨c, rest, rfl⟩
    have hc := hplace c List.mem_cons_self
    have hslash : isSlash true c = false := by
      simp only [endsAuthority, Bool.or_eq_false_iff] at hc
      exact hc.1.1
    have hfirst : isSlash true '/' = true := rfl
    rw [List.dropWhile_cons_of_pos hfirst, List.dropWhile_cons_of_pos hfirst, List.cons_append,
      List.dropWhile_cons, hslash, if_neg Bool.false_ne_true]
  -- No character of the place ends it.
  have hkeep : ∀ c ∈ place, (!endsAuthority true c) = true := fun c hc => by rw [hplace c hc]; rfl
  have htake : (place ++ '/' :: path).takeWhile (fun c => !endsAuthority true c) = place := by
    rw [List.takeWhile_append_of_pos hkeep, List.takeWhile_cons_of_neg (by decide),
      List.append_nil]
  have hdrop : (place ++ '/' :: path).dropWhile (fun c => !endsAuthority true c) = '/' :: path := by
    rw [List.dropWhile_append_of_pos hkeep, List.dropWhile_cons_of_neg (by decide)]
  simp only [authority?, hspecial, hfile, ne_eq, not_false_eq_true, decide_true, Bool.and_self,
    if_true, hskip, htake, hdrop]

/-- A text of the web is read as the place and the path behind its scheme. -/
theorem read?_web {scheme : String} (hweb : scheme = "http" ∨ scheme = "https")
    {place path : List Char} (hplace : ∀ c ∈ place, isAddressChar c = true) (hne : place ≠ [])
    (hpath : ∀ c ∈ path, 0x20 < c.toNat) :
    read? (String.ofList (scheme.toList ++ "://".toList ++ place ++ '/' :: path)) =
      assemble? scheme place ('/' :: path) := by
  have hvisible : ∀ c ∈ scheme.toList ++ "://".toList ++ place ++ '/' :: path, 0x20 < c.toNat := by
    have hfront : (scheme.toList ++ "://".toList).all (fun c => decide (0x20 < c.toNat)) =
        true := by
      rcases hweb with rfl | rfl
      · rfl
      · rfl
    intro c hc
    rw [List.mem_append, List.mem_append, List.mem_cons] at hc
    rcases hc with (hc | hc) | rfl | hc
    · exact of_decide_eq_true (List.all_eq_true.mp hfront c hc)
    · exact forall_isAddressChar (p := fun c => 0x20 < c.toNat) (by decide) (hplace c hc)
    · decide
    · exact hpath c hc
  have htext : scheme.toList ++ "://".toList ++ place ++ '/' :: path =
      scheme.toList ++ ':' :: '/' :: '/' :: (place ++ '/' :: path) := by
    simp only [List.append_assoc]
    rfl
  have hends : ∀ c ∈ place, endsAuthority true c = false := fun c hc =>
    forall_isAddressChar (p := fun c => endsAuthority true c = false) (by decide) (hplace c hc)
  rw [read?, String.toList_ofList, cleaned_of_visible hvisible, htext, scheme?_web hweb,
    Option.bind_eq_bind, Option.bind_some]
  dsimp only
  rw [authority?_web hweb hends hne path]
  rfl

/-- A name without a colon goes up to the port. -/
theorem takeHost_append {name rest : List Char} (hname : ∀ c ∈ name, c ≠ ':' ∧ c ≠ '[')
    (hrest : rest = [] ∨ rest.head? = some ':') : takeHost false (name ++ rest) = (name, rest) := by
  induction name with
  | nil =>
      cases rest with
      | nil => rfl
      | cons c more =>
          rcases hrest with hrest | hrest
          · exact absurd hrest (List.cons_ne_nil _ _)
          · obtain rfl : c = ':' := Option.some.inj hrest
            rfl
  | cons c more ih =>
      rcases List.forall_mem_cons.mp hname with ⟨⟨hcolon, hbracket⟩, hmore⟩
      simp only [List.cons_append, takeHost, hcolon, hbracket, decide_false, Bool.false_and,
        Bool.false_eq_true, if_false, ite_self, ih hmore]

theorem foldl_ofNatText (n : Nat) :
    (Decimal.ofNatText n).foldl (fun n d => n * 10 + (d.toNat - 48)) 0 = n := by
  have hread := Decimal.foldlM_ofNatText (m := Id) (fun n d => pure (n * 10 + (d.toNat - 48)))
    (fun n d hd => ?_) n
  · rwa [List.foldlM_pure] at hread
  · have hall : ∀ d : Fin 10, (Decimal.digitChar d.val).toNat - 48 = d.val := by decide
    have hvalue : (Decimal.digitChar d).toNat - 48 = d := hall ⟨d, hd⟩
    rw [hvalue, Nat.mul_comm n 10]

/-- A port is read as its number, which is dropped if it is the usual one. -/
theorem port?_ofNatText (scheme : String) (n : Nat) (h : n ≤ 65535) :
    port? scheme (':' :: Decimal.ofNatText n) =
      some (if usualPorts.lookup scheme = some (some n) then none else some n) := by
  have hdigits : (Decimal.ofNatText n).all Char.isDigit = true :=
    List.all_eq_true.mpr (Decimal.forall_mem_ofNatText (by decide) n)
  have hsome : (Decimal.ofNatText n).isEmpty = false :=
    List.isEmpty_eq_false_iff.mpr (Decimal.ofNatText_ne_nil n)
  simp only [port?, hdigits, if_true, foldl_ofNatText, if_neg (Nat.not_lt.mpr h), hsome,
    Bool.false_or, decide_eq_true_iff]
  split <;> rfl

/-- A port has no colon. -/
theorem port?_of_colon (scheme : String) {s : List Char} (h : ':' ∈ s) :
    port? scheme (':' :: s) = none := by
  have hdigits : s.all Char.isDigit = false := List.all_eq_false.mpr ⟨':', h, by decide⟩
  simp only [port?, hdigits, Bool.false_eq_true, if_false]

/-- Without an at sign there is neither a name nor a password. -/
theorem splitUserinfo_of_notMem {s : List Char} (h : '@' ∉ s) : splitUserinfo s = none := by
  have hnone : s.reverse.dropWhile (fun c => decide (c ≠ '@')) = [] := by
    refine List.dropWhile_eq_nil_iff.mpr fun c hc => decide_eq_true fun heq => h ?_
    exact heq ▸ List.mem_reverse.mp hc
  simp only [splitUserinfo, hnone]

/-- A place without a name and a password, and a path that nothing follows. -/
theorem assemble?_eq {scheme : String} (hspecial : isSpecial scheme = true)
    {place name tail path : List Char} (hplace : '@' ∉ place)
    (htake : takeHost false place = (name, tail)) (hpath : ∀ c ∈ path, c ≠ '#' ∧ c ≠ '?') :
    assemble? scheme place path = (Host.read? name).bind fun host =>
      (port? scheme tail).map fun port =>
        { scheme, username := [], password := none, host, port, path := resolvedPath true path
          query := none, fragment := none } := by
  -- No fragment and no query is cut off from the path.
  have hfragment : ∀ c ∈ path, decide (c ≠ '#') = true := fun c hc => decide_eq_true (hpath c hc).1
  have hquery : ∀ c ∈ path, decide (c ≠ '?') = true := fun c hc => decide_eq_true (hpath c hc).2
  have hbefore : path.takeWhile (fun c => decide (c ≠ '#')) = path :=
    List.takeWhile_eq_self_iff.mpr hfragment
  have hafter : path.dropWhile (fun c => decide (c ≠ '#')) = [] :=
    List.dropWhile_eq_nil_iff.mpr hfragment
  have hbefore' : path.takeWhile (fun c => decide (c ≠ '?')) = path :=
    List.takeWhile_eq_self_iff.mpr hquery
  have hafter' : path.dropWhile (fun c => decide (c ≠ '?')) = [] :=
    List.dropWhile_eq_nil_iff.mpr hquery
  simp only [assemble?, splitUserinfo_of_notMem hplace, Option.getD_none, htake, hspecial, if_true,
    hbefore, hafter, hbefore', hafter']
  cases Host.read? name with
  | none => rfl
  | some host =>
      cases port? scheme tail with
      | none => rfl
      | some port => rfl

end Url

end StorageGauges
