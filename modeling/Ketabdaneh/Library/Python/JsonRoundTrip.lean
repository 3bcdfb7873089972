import Ketabdaneh.Library.Except
import Ketabdaneh.Library.Python.Json

/-!
This module contains what becomes of a value that is dumped and loaded again.
-/

namespace Python

open Text

namespace Json

variable {floatText : PyFloat → Str} {default : Value → Except EncodeError Str}

theorem dumpsList_cons_eq_ok {x : Value} {xs : List Value} {docs : List Json}
    : dumpsList floatText default (x :: xs) = .ok docs
        ↔
      ∃ doc rest, dumps floatText default x = .ok doc
        ∧ dumpsList floatText default xs = .ok rest ∧ docs = doc :: rest := by
  rw [dumpsList]
  simp only [Except.bind_eq_ok, Except.pure_eq_ok, exists_and_left, eq_comm (a := docs)]

theorem dumpsItems_cons_eq_ok {k x : Value} {xs : Items} {members : List (Str × Json)}
    : dumpsItems floatText default ((k, x) :: xs) = .ok members
        ↔
      ∃ name doc rest, keyText floatText k = .ok name ∧ dumps floatText default x = .ok doc
        ∧ dumpsItems floatText default xs = .ok rest ∧ members = (name, doc) :: rest := by
  rw [dumpsItems]
  simp only [Except.bind_eq_ok, Except.pure_eq_ok, exists_and_left, eq_comm (a := members)]

theorem intDigits_eq_ok {n m : Int} (h : intDigits n = .ok m) : m = n := by
  unfold intDigits at h
  split at h
  . injection h with h
    exact h.symm
  . injection h

mutual

theorem loads_dumps {v : Value} {doc : Json} (hnative : native v = true)
    (hwf : v.wellFormed = true) (h : dumps floatText default v = .ok doc) : loads doc = v := by
  cases v with
  | None =>
    injection h with h
    rw [← h, loads]
  | bool b =>
    injection h with h
    rw [← h, loads]
  | int n =>
    rw [dumps] at h
    rcases Except.map_eq_ok.mp h with ⟨m, hm, hdoc⟩
    rw [← hdoc, loads, intDigits_eq_ok hm]
  | float x =>
    injection h with h
    rw [← h, loads]
  | str s =>
    injection h with h
    rw [← h, loads]
  | list items =>
    rw [dumps] at h
    rcases Except.map_eq_ok.mp h with ⟨docs, hdocs, hdoc⟩
    rw [← hdoc, loads]
    rw [native] at hnative
    rw [Value.wellFormed] at hwf
    rw [loadsList_dumpsList hnative hwf hdocs]
  | tuple items => simp [native] at hnative
  | dict items =>
    rw [dumps] at h
    rcases Except.map_eq_ok.mp h with ⟨members, hmembers, hdoc⟩
    rw [← hdoc, loads]
    rw [native] at hnative
    rw [Value.wellFormed] at hwf
    have hitems := loadsMembers_dumpsItems hnative hwf hmembers
    rw [dictOf_of_nodup, hitems]
    apply nodup_of_wellFormedItems
    rwa [hitems]
  | exception id typeName message => simp [native] at hnative
  | object id typeName => simp [native] at hnative
termination_by structural v

theorem loadsList_dumpsList {xs : List Value} {docs : List Json} (hnative : nativeList xs = true)
    (hwf : Value.wellFormedList xs = true) (h : dumpsList floatText default xs = .ok docs)
    : loadsList docs = xs := by
  cases xs with
  | nil =>
    injection h with h
    rw [← h, loadsList]
  | cons x xs =>
    rcases dumpsList_cons_eq_ok.mp h with ⟨doc, rest, hdoc, hrest, hdocs⟩
    rw [nativeList, Bool.and_eq_true] at hnative
    rw [Value.wellFormedList, Bool.and_eq_true] at hwf
    rw [hdocs, loadsList, loads_dumps hnative.1 hwf.1 hdoc,
      loadsList_dumpsList hnative.2 hwf.2 hrest]
termination_by structural xs

theorem loadsMembers_dumpsItems {xs : Items} {members : List (Str × Json)}
    (hnative : nativeItems xs = true) (hwf : Value.wellFormedItems xs = true)
    (h : dumpsItems floatText default xs = .ok members)
    : (loadsMembers members).map item = xs := by
  match xs with
  | [] =>
    injection h with h
    rw [← h, loadsMembers, List.map_nil]
  | (k, x) :: xs =>
    rcases dumpsItems_cons_eq_ok.mp h with ⟨name, doc, rest, hname, hdoc, hrest, hmembers⟩
    rw [nativeItems, Bool.and_eq_true, Bool.and_eq_true] at hnative
    rw [Value.wellFormedItems, Bool.and_eq_true, Bool.and_eq_true] at hwf
    have hkey : k = .str name := by
      rcases Value.isStr_iff.mp hnative.1.1 with ⟨s, hs⟩
      rw [hs] at hname ⊢
      injection hname with hname
      rw [hname]
    rw [hmembers, loadsMembers, List.map_cons, loads_dumps hnative.1.2 hwf.1.2 hdoc,
      loadsMembers_dumpsItems hnative.2 hwf.2 hrest, hkey]
    rfl
termination_by structural xs

end

theorem exists_pairs {xs : Items} (h : ∀ x ∈ xs, x.1.isStr = true)
    : ∃ pairs : List (Str × Value), xs = pairs.map item := by
  induction xs with
  | nil => exact ⟨[], rfl⟩
  | cons x xs ih =>
    rw [List.forall_mem_cons] at h
    rcases ih h.2 with ⟨pairs, hpairs⟩
    rcases Value.isStr_iff.mp h.1 with ⟨s, hs⟩
    refine ⟨(s, x.2) :: pairs, ?_⟩
    rw [List.map_cons, ← hpairs, item, ← hs]

theorem isStr_of_nativeItems {xs : Items} (h : nativeItems xs = true)
    : ∀ x ∈ xs, x.1.isStr = true := by
  induction xs with
  | nil => simp
  | cons x xs ih =>
    rw [nativeItems, Bool.and_eq_true, Bool.and_eq_true] at h
    rw [List.forall_mem_cons]
    exact ⟨h.1.1, ih h.2⟩

theorem find?_of_isStr {xs : Items} (hstr : ∀ x ∈ xs, x.1.isStr = true)
    (hwf : Value.wellFormedItems xs = true)
    : ∀ x ∈ xs, xs.find? (fun y => Value.eq x.1 y.1) = some x := by
  rcases exists_pairs hstr with ⟨pairs, hpairs⟩
  rw [hpairs] at hwf ⊢
  intro x hx
  rw [List.mem_map] at hx
  rcases hx with ⟨pair, hpair, hx⟩
  rw [← hx]
  exact find?_item (nodup_of_wellFormedItems hwf) hpair

theorem eqFloat_self {x : PyFloat} (h : x ≠ .nan) : x.eq x = true := by
  cases x with
  | nan => contradiction
  | infinity s => simp [PyFloat.eq]
  | finite p => simp [PyFloat.eq]

mutual

theorem eq_self {v : Value} (hnative : native v = true) (hwf : v.wellFormed = true)
    : v.eq v = true := by
  cases v with
  | None => rw [Value.eq]
  | bool b => simp [Value.eq, Value.eqNumber, Value.number, PyFloat.eq]
  | int n => simp [Value.eq, Value.eqNumber, Value.number, PyFloat.eq]
  | float x =>
    rw [native, decide_eq_true_eq] at hnative
    simp [Value.eq, Value.eqNumber, Value.number, eqFloat_self hnative]
  | str s => rw [Value.str_eq_iff]
  | list items =>
    rw [native] at hnative
    rw [Value.wellFormed] at hwf
    rw [Value.eq]
    apply eqList_self
    all_goals assumption
  | tuple items => simp [native] at hnative
  | dict items =>
    rw [native] at hnative
    rw [Value.wellFormed] at hwf
    simp only [Value.eq, decide_true, Bool.true_and]
    apply eqItems_self hnative hwf
    exact find?_of_isStr (isStr_of_nativeItems hnative) hwf
  | exception id typeName message => simp [native] at hnative
  | object id typeName => simp [native] at hnative
termination_by structural v

theorem eqList_self {xs : List Value} (hnative : nativeList xs = true)
    (hwf : Value.wellFormedList xs = true) : Value.eqList xs xs = true := by
  cases xs with
  | nil => rfl
  | cons x xs =>
    rw [nativeList, Bool.and_eq_true] at hnative
    rw [Value.wellFormedList, Bool.and_eq_true] at hwf
    rw [Value.eqList, Bool.and_eq_true]
    exact ⟨eq_self hnative.1 hwf.1, eqList_self hnative.2 hwf.2⟩
termination_by structural xs

theorem eqItems_self {xs ys : Items} (hnative : nativeItems xs = true)
    (hwf : Value.wellFormedItems xs = true)
    (hfind : ∀ x ∈ xs, ys.find? (fun y => Value.eq x.1 y.1) = some x)
    : Value.eqItems xs ys = true := by
  match xs with
  | [] => rfl
  | (k, x) :: xs =>
    rw [nativeItems, Bool.and_eq_true, Bool.and_eq_true] at hnative
    rw [Value.wellFormedItems, Bool.and_eq_true, Bool.and_eq_true] at hwf
    rw [List.forall_mem_cons] at hfind
    rw [Value.eqItems, hfind.1, Option.any_some, Bool.and_eq_true]
    exact ⟨eq_self hnative.1.2 hwf.1.2, eqItems_self hnative.2 hwf.2 hfind.2⟩
termination_by structural xs

end

theorem isStr_of_eqItems {xs : Items} {pairs : List (Str × Value)}
    (h : Value.eqItems xs (pairs.map item) = true) : ∀ x ∈ xs, x.1.isStr = true := by
  induction xs with
  | nil => simp
  | cons x xs ih =>
    rw [Value.eqItems, Bool.and_eq_true, Option.any_eq_true] at h
    rcases h with ⟨⟨y, hy, -⟩, hrest⟩
    rw [List.forall_mem_cons]
    refine ⟨?_, ih hrest⟩
    have hmem := List.mem_of_find?_eq_some hy
    have hkey := List.find?_some hy
    rw [List.mem_map] at hmem
    rcases hmem with ⟨pair, -, hpair⟩
    rw [← hpair, item, Value.eq_str_iff] at hkey
    rw [hkey]
    rfl

theorem names_of_dumpsItems {xs : List (Str × Value)} {members : List (Str × Json)}
    (h : dumpsItems floatText default (xs.map item) = .ok members)
    : (loadsMembers members).map Prod.fst = xs.map Prod.fst := by
  induction xs generalizing members with
  | nil =>
    injection h with h
    rw [← h, loadsMembers]
  | cons x xs ih =>
    rcases dumpsItems_cons_eq_ok.mp h with ⟨name, doc, rest, hname, hdoc, hrest, hmembers⟩
    injection hname with hname
    rw [hmembers, loadsMembers, List.map_cons, List.map_cons, ih hrest, hname]

mutual

theorem native_of_eq {v : Value} {doc : Json} (hwf : v.wellFormed = true)
    (h : dumps floatText default v = .ok doc) (heq : v.eq (loads doc) = true)
    : native v = true := by
  cases v with
  | None => rfl
  | bool b => rfl
  | int n => rfl
  | float x =>
    injection h with h
    rw [← h, loads, Value.eq, Value.eqNumber, Value.number, Option.any_some] at heq
    rw [native, decide_eq_true_eq]
    intro hnan
    rw [hnan] at heq
    injection heq
  | str s => rfl
  | list items =>
    rw [dumps] at h
    rcases Except.map_eq_ok.mp h with ⟨docs, hdocs, hdoc⟩
    rw [← hdoc, loads, Value.eq] at heq
    rw [Value.wellFormed] at hwf
    rw [native]
    apply nativeList_of_eqList
    all_goals assumption
  | tuple items =>
    rw [dumps] at h
    rcases Except.map_eq_ok.mp h with ⟨docs, hdocs, hdoc⟩
    simp [← hdoc, loads, Value.eq] at heq
  | dict items =>
    rw [dumps] at h
    rcases Except.map_eq_ok.mp h with ⟨members, hmembers, hdoc⟩
    simp only [← hdoc, loads, Value.eq, Bool.and_eq_true] at heq
    rw [Value.wellFormed] at hwf
    rw [native]
    have hstr := isStr_of_eqItems heq.2
    apply nativeItems_of_eqItems hwf hmembers hstr ?_ heq.2
    -- the names are the keys, so they are distinct and each is found again
    rcases exists_pairs hstr with ⟨pairs, hpairs⟩
    rw [hpairs] at hmembers hwf
    have hnodup : ((loadsMembers members).map Prod.fst).Nodup := by
      rw [names_of_dumpsItems hmembers]
      apply nodup_of_wellFormedItems
      assumption
    rw [dictOf_of_nodup hnodup]
    intro pair hpair
    apply find?_item
    all_goals assumption
  | exception id typeName message =>
    rw [dumps] at h
    rcases Except.map_eq_ok.mp h with ⟨s, hs, hdoc⟩
    rw [← hdoc, loads, Value.eq_str_iff] at heq
    injection heq
  | object id typeName =>
    rw [dumps] at h
    rcases Except.map_eq_ok.mp h with ⟨s, hs, hdoc⟩
    rw [← hdoc, loads, Value.eq_str_iff] at heq
    injection heq
termination_by structural v

theorem nativeList_of_eqList {xs : List Value} {docs : List Json}
    (hwf : Value.wellFormedList xs = true) (h : dumpsList floatText default xs = .ok docs)
    (heq : Value.eqList xs (loadsList docs) = true) : nativeList xs = true := by
  cases xs with
  | nil => rfl
  | cons x xs =>
    rcases dumpsList_cons_eq_ok.mp h with ⟨doc, rest, hdoc, hrest, hdocs⟩
    simp only [hdocs, loadsList, Value.eqList, Bool.and_eq_true] at heq
    rw [Value.wellFormedList, Bool.and_eq_true] at hwf
    rw [nativeList, Bool.and_eq_true]
    exact ⟨native_of_eq hwf.1 hdoc heq.1, nativeList_of_eqList hwf.2 hrest heq.2⟩
termination_by structural xs

theorem nativeItems_of_eqItems {xs ys : Items} {members : List (Str × Json)}
    (hwf : Value.wellFormedItems xs = true) (h : dumpsItems floatText default xs = .ok members)
    (hstr : ∀ x ∈ xs, x.1.isStr = true)
    (hfind : ∀ pair ∈ loadsMembers members,
      ys.find? (fun y => Value.eq (.str pair.1) y.1) = some (item pair))
    (heq : Value.eqItems xs ys = true) : nativeItems xs = true := by
  match xs with
  | [] => rfl
  | (k, x) :: xs =>
    rcases dumpsItems_cons_eq_ok.mp h with ⟨name, doc, rest, hname, hdoc, hrest, hmembers⟩
    rw [Value.wellFormedItems, Bool.and_eq_true, Bool.and_eq_true] at hwf
    rw [List.forall_mem_cons] at hstr
    rw [hmembers, loadsMembers, List.forall_mem_cons] at hfind
    rcases Value.isStr_iff.mp hstr.1 with ⟨s, hs⟩
    dsimp only at hs
    rw [hs] at hname
    injection hname with hname
    rw [Value.eqItems, hs, hname, hfind.1, Option.any_some, Bool.and_eq_true] at heq
    rw [nativeItems, Bool.and_eq_true, Bool.and_eq_true]
    refine ⟨⟨hstr.1, native_of_eq hwf.1.2 hdoc heq.1⟩, ?_⟩
    exact nativeItems_of_eqItems hwf.2 hrest hstr.2 hfind.2 heq.2
termination_by structural xs

end

theorem eq_loads_iff {v : Value} {doc : Json} (hwf : v.wellFormed = true)
    (h : dumps floatText default v = .ok doc) : v.eq (loads doc) = true ↔ native v = true := by
  constructor
  . intro heq
    apply native_of_eq
    all_goals assumption
  . intro hnative
    rw [loads_dumps hnative hwf h]
    apply eq_self
    all_goals assumption

def textOk : Except EncodeError Str → Bool
  | .ok s => Text.encodable s
  | .error _ => false

@[simp]
theorem textOk_ok (s : Str) : textOk (.ok s) = Text.encodable s := rfl

section

variable (floatText : PyFloat → Str) (default : Value → Except EncodeError Str)

mutual

def dumpable : Value → Bool
  | .int n => (decimal n.natAbs).length ≤ maxStrDigits
  | .str s => Text.encodable s
  | .list items => dumpableList items
  | .tuple items => dumpableList items
  | .dict items => dumpableItems items
  | .exception id typeName message => textOk (default (.exception id typeName message))
  | .object id typeName => textOk (default (.object id typeName))
  | _ => true

def dumpableList : List Value → Bool
  | [] => true
  | x :: xs => dumpable x && dumpableList xs

def dumpableItems : Items → Bool
  | [] => true
  | (k, x) :: xs => textOk (keyText floatText k) && dumpable x && dumpableItems xs

end

end

theorem textOk_iff {r : Except EncodeError Str}
    : textOk r = true ↔ ∃ s, r = .ok s ∧ Text.encodable s = true := by
  cases r with
  | error e => simp [textOk]
  | ok s => simp [textOk]

theorem intDigits_iff {n : Int}
    : (∃ m, intDigits n = .ok m) ↔ (decimal n.natAbs).length ≤ maxStrDigits := by
  unfold intDigits
  split
  . next h => exact iff_of_true ⟨n, rfl⟩ h
  . next h => simp [h]

theorem loads_dumps_dict {items : Items} {doc : Json}
    (h : dumps floatText default (.dict items) = .ok doc)
    : ∃ items', loads doc = .dict items' := by
  rw [dumps] at h
  rcases Except.map_eq_ok.mp h with ⟨members, -, hdoc⟩
  exact ⟨_, by rw [← hdoc, loads]⟩

mutual

theorem dumps_iff (v : Value)
    : (∃ doc, dumps floatText default v = .ok doc ∧ doc.encodable = true)
        ↔
      dumpable floatText default v = true := by
  cases v with
  | None => exact iff_of_true ⟨.null, rfl, rfl⟩ rfl
  | bool b => exact iff_of_true ⟨.bool b, rfl, rfl⟩ rfl
  | int n =>
    rw [dumpable, decide_eq_true_eq, ← intDigits_iff]
    simp [dumps, Except.map_eq_ok, encodable]
  | float x => exact iff_of_true ⟨.float x, rfl, rfl⟩ rfl
  | str s => simp [dumps, dumpable, encodable]
  | list items =>
    rw [dumpable, ← dumpsList_iff items]
    simp [dumps, Except.map_eq_ok, encodable]
  | tuple items =>
    rw [dumpable, ← dumpsList_iff items]
    simp [dumps, Except.map_eq_ok, encodable]
  | dict items =>
    rw [dumpable, ← dumpsItems_iff items]
    simp [dumps, Except.map_eq_ok, encodable]
  | exception id typeName message =>
    rw [dumpable, textOk_iff]
    simp [dumps, Except.map_eq_ok, encodable]
  | object id typeName =>
    rw [dumpable, textOk_iff]
    simp [dumps, Except.map_eq_ok, encodable]
termination_by structural v

theorem dumpsList_iff (xs : List Value)
    : (∃ docs, dumpsList floatText default xs = .ok docs ∧ encodableList docs = true)
        ↔
      dumpableList floatText default xs = true := by
  cases xs with
  | nil => exact iff_of_true ⟨[], rfl, rfl⟩ rfl
  | cons x xs =>
    rw [dumpableList, Bool.and_eq_true, ← dumps_iff x, ← dumpsList_iff xs]
    constructor
    . rintro ⟨docs, hdocs, hencodable⟩
      rcases dumpsList_cons_eq_ok.mp hdocs with ⟨doc, rest, hdoc, hrest, hcons⟩
      rw [hcons, encodableList, Bool.and_eq_true] at hencodable
      exact ⟨⟨doc, hdoc, hencodable.1⟩, ⟨rest, hrest, hencodable.2⟩⟩
    . rintro ⟨⟨doc, hdoc, hencodable⟩, ⟨rest, hrest, hencodables⟩⟩
      refine ⟨doc :: rest, dumpsList_cons_eq_ok.mpr ⟨doc, rest, hdoc, hrest, rfl⟩, ?_⟩
      rw [encodableList, hencodable, hencodables, Bool.and_self]
termination_by structural xs

theorem dumpsItems_iff (xs : Items)
    : (∃ members, dumpsItems floatText default xs = .ok members
        ∧ encodableMembers members = true)
        ↔
      dumpableItems floatText default xs = true := by
  match xs with
  | [] => exact iff_of_true ⟨[], rfl, rfl⟩ rfl
  | (k, x) :: xs =>
    rw [dumpableItems, Bool.and_eq_true, Bool.and_eq_true, textOk_iff, ← dumps_iff x,
      ← dumpsItems_iff xs]
    constructor
    . rintro ⟨members, hmembers, hencodable⟩
      rcases dumpsItems_cons_eq_ok.mp hmembers with ⟨name, doc, rest, hname, hdoc, hrest, hcons⟩
      rw [hcons, encodableMembers, Bool.and_eq_true, Bool.and_eq_true] at hencodable
      exact ⟨⟨⟨name, hname, hencodable.1.1⟩, ⟨doc, hdoc, hencodable.1.2⟩⟩,
        ⟨rest, hrest, hencodable.2⟩⟩
    . rintro ⟨⟨⟨name, hname, hkey⟩, ⟨doc, hdoc, hencodable⟩⟩, ⟨rest, hrest, hencodables⟩⟩
      refine ⟨(name, doc) :: rest, ?_, ?_⟩
      . exact dumpsItems_cons_eq_ok.mpr ⟨name, doc, rest, hname, hdoc, hrest, rfl⟩
      . rw [encodableMembers, hkey, hencodable, hencodables, Bool.and_self, Bool.and_self]
termination_by structural xs

end

end Json

end Python
