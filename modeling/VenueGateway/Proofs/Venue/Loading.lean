import Mathlib.Data.List.Forall2
import VenueGateway.Proofs.Assoc
import VenueGateway.Proofs.Json.Fields
import VenueGateway.Proofs.Json.RoundTrip
import VenueGateway.Proofs.Venue.Directory

/-!
Loading a directory. A document lists symbols with their numbers, and the last number of a symbol
counts. Its pairs are entered one by one, and each drives out the pairs that it clashes with; where
no two of them clash, what is known in the end does not depend on which came first, and entering
them once more changes nothing.
-/

namespace VenueGateway.Directory

open Json (Value Member)

def Gives (m : Member) (p : String × Int64) : Prop :=
  ∃ n, m = (some p.1, .number n) ∧ n.ReadsAs p.2.toInt

/-- A text is a document: an object whose members give, one after another, numbers to symbols. -/
def Lists (text : String) (ps : List (String × Int64)) : Prop :=
  ∃ ms, (Value.object ms).Spelled text ∧ List.Forall₂ Gives ms ps

/-- A pair is listed, and its symbol is not listed again behind it. -/
def Lasts (ps : List (String × Int64)) (p : String × Int64) : Prop :=
  ∃ front back, ps = front ++ p :: back ∧ ∀ q ∈ back, q.1 ≠ p.1

section Reading

theorem pair?_eq_some_iff {m : Member} {p : String × Int64} : pair? m = some p ↔ Gives m p := by
  obtain ⟨key, v⟩ := m
  obtain ⟨symbol, id⟩ := p
  simp only [pair?, Option.bind_eq_bind, Option.bind_eq_some_iff, Value.int64?_eq_some_iff,
    Option.some.injEq, Prod.mk.injEq, Gives]
  constructor
  · rintro ⟨symbol', rfl, id', ⟨n, rfl, hn⟩, rfl, rfl⟩
    exact ⟨n, ⟨rfl, rfl⟩, hn⟩
  · rintro ⟨n, ⟨rfl, rfl⟩, hn⟩
    exact ⟨symbol, rfl, id, ⟨n, rfl, hn⟩, rfl, rfl⟩

/-- A document is read member by member. -/
theorem mapM_pair?_eq_some_iff {ms : List Member} {ps : List (String × Int64)} :
    ms.mapM pair? = some ps ↔ List.Forall₂ Gives ms ps := by
  induction ms generalizing ps with
  | nil => simp [eq_comm]
  | cons m ms ih =>
    simp only [List.mapM_cons, Option.bind_eq_bind, Option.bind_eq_some_iff, pair?_eq_some_iff, ih,
      List.forall₂_cons_left_iff]
    constructor
    · rintro ⟨p, hp, rest, hrest, hps⟩
      exact ⟨p, rest, hp, hrest, (Option.some.inj hps).symm⟩
    · rintro ⟨p, rest, hp, hrest, rfl⟩
      exact ⟨p, hp, rest, hrest, rfl⟩

/-- A text is read as the pairs that it lists. -/
theorem pairs?_eq_some_iff {text : String} {read : Assoc String Int64} :
    (Value.parse? text).bind pairs? = some read ↔ ∃ ps, Lists text ps ∧ read = .ofList ps := by
  rw [Option.bind_eq_some_iff]
  constructor
  · rintro ⟨v, hv, hread⟩
    cases v with
    | object ms =>
      obtain ⟨ps, hps, rfl⟩ := Option.map_eq_some_iff.mp hread
      exact ⟨ps, ⟨ms, Value.parse?_eq_some_iff.mp hv, mapM_pair?_eq_some_iff.mp hps⟩, rfl⟩
    | _ => cases hread
  · rintro ⟨ps, ⟨ms, hspelled, hgives⟩, rfl⟩
    refine ⟨.object ms, Value.parse?_eq_some_iff.mpr hspelled, ?_⟩
    rw [pairs?, mapM_pair?_eq_some_iff.mpr hgives, Option.map_some]

/-- Of repeated symbols the last counts. -/
theorem mem_entries_ofList {ps : List (String × Int64)} {p : String × Int64} :
    p ∈ (Assoc.ofList ps).entries ↔ Lasts ps p := by
  have hget : p ∈ (Assoc.ofList ps).entries ↔ ps.reverse.find? (fun e => e.1 = p.1) = some p := by
    rw [← Assoc.get?_eq_some_iff (k := p.1) (v := p.2), Assoc.ofList, Assoc.get?_insertAll,
      Assoc.get?_empty, Option.or_none, Option.map_eq_some_iff]
    constructor
    · rintro ⟨q, hq, hid⟩
      have hsymbol := List.find?_some hq
      rw [hq, Option.some.injEq]
      exact Prod.ext (of_decide_eq_true hsymbol) hid
    · intro hp
      exact ⟨p, hp, rfl⟩
  rw [hget, List.find?_eq_some_iff_append]
  constructor
  · rintro ⟨-, back, front, hps, hback⟩
    refine ⟨front.reverse, back.reverse, ?_, fun q hq => ?_⟩
    · rw [← List.reverse_inj, hps]
      simp
    · simpa using hback q (List.mem_reverse.mp hq)
  · rintro ⟨front, back, rfl, hback⟩
    refine ⟨decide_eq_true rfl, back.reverse, front.reverse, by simp, fun q hq => ?_⟩
    simpa using hback q (List.mem_reverse.mp hq)

theorem size_ofList (ps : List (String × Int64)) :
    (Assoc.ofList ps).size = (ps.map Prod.fst).toFinset.card := by
  have hkeys : (Assoc.ofList ps).keys.toFinset = (ps.map Prod.fst).toFinset := by
    ext symbol
    rw [List.mem_toFinset, List.mem_toFinset, Assoc.mem_keys_ofList]
  rw [← hkeys, List.toFinset_card_of_nodup (Assoc.nodup_keys _), Assoc.keys,
    List.length_map, Assoc.size]

end Reading

section Entering

variable {ps : List (String × Int64)}

/-- Where no two of the pairs share a symbol or a number, all of them stay, and of the pairs known
before those that mention neither a symbol nor a number of theirs. -/
theorem foldl_entering (hsymbols : (ps.map Prod.fst).Nodup) (hids : (ps.map Prod.snd).Nodup)
    (known : Set (String × Int64)) :
    ps.foldl entering known = {q ∈ known | ∀ p ∈ ps, q.1 ≠ p.1 ∧ q.2 ≠ p.2} ∪ {p | p ∈ ps} := by
  induction ps generalizing known with
  | nil => simp
  | cons p ps ih =>
    obtain ⟨hsymbol, hsymbols⟩ := List.nodup_cons.mp hsymbols
    obtain ⟨hid, hids⟩ := List.nodup_cons.mp hids
    have hspared : ∀ p' ∈ ps, p.1 ≠ p'.1 ∧ p.2 ≠ p'.2 := fun p' hp' =>
      ⟨fun h => hsymbol (h ▸ List.mem_map_of_mem hp'), fun h => hid (h ▸ List.mem_map_of_mem hp')⟩
    rw [List.foldl_cons, ih hsymbols hids]
    ext q
    simp only [entering, Set.mem_union, Set.mem_singleton_iff, Set.mem_ofPred_eq]
    rw [List.forall_mem_cons, List.mem_cons]
    constructor
    · rintro (⟨⟨hq, hp⟩ | rfl, hps⟩ | hmem)
      · exact .inl ⟨hq, hp, hps⟩
      · exact .inr (.inl rfl)
      · exact .inr (.inr hmem)
    · rintro (⟨hq, hp, hps⟩ | rfl | hmem)
      · exact .inl ⟨.inl ⟨hq, hp⟩, hps⟩
      · exact .inl ⟨.inr rfl, hspared⟩
      · exact .inr hmem

/-- A pair that is known already changes nothing. -/
theorem insert_of_id? {d : Directory} (h : d.Inverse) {symbol : String} {id : Int64}
    (hknown : d.id? symbol = some id) :
    d.insert symbol id = d := by
  have hsymbol : d.symbol? id = some symbol := (h symbol id).mp hknown
  have hdropId : d.dropId symbol id = d.symbolOf := by
    unfold id? at hknown
    simp [dropId, hknown]
  have hdropSymbol : dropSymbol d.idOf d.symbolOf symbol id = d.idOf := by
    unfold symbol? at hsymbol
    simp [dropSymbol, hsymbol]
  rw [insert, hdropId, hdropSymbol, Assoc.insert_of_get? hknown, Assoc.insert_of_get? hsymbol]

theorem insertAll_of_known {d : Directory} (h : d.Inverse) (hknown : ∀ p ∈ ps, p ∈ d.pairs) :
    d.insertAll ps = d := by
  induction ps with
  | nil => rfl
  | cons p ps ih =>
    obtain ⟨hp, hps⟩ := List.forall_mem_cons.mp hknown
    have hcons : d.insertAll (p :: ps) = (d.insert p.1 p.2).insertAll ps := rfl
    rw [hcons, insert_of_id? h hp, ih hps]

/-- A directory that is one to one is known by its pairs, from either side. -/
theorem Inverse.ext_pairs {d d' : Directory} (h : d.Inverse) (h' : d'.Inverse)
    (hpairs : d.pairs = d'.pairs) :
    d.id? = d'.id? ∧ d.symbol? = d'.symbol? := by
  have hid : ∀ symbol id, d.id? symbol = some id ↔ d'.id? symbol = some id := fun symbol id =>
    Set.ext_iff.mp hpairs (symbol, id)
  constructor
  · funext symbol
    exact Option.ext (hid symbol)
  · funext id
    refine Option.ext fun symbol => ?_
    rw [← h symbol id, hid symbol id, h' symbol id]

end Entering

/-- The pairs of a document that count have numbers of their own. -/
def NumbersApart (ps : List (String × Int64)) : Prop :=
  ∀ p q, Lasts ps p → Lasts ps q → p.2 = q.2 → p = q

structure Loading (d : Directory) (text : String) : Prop where
  /-- Documents can be loaded, and nothing else. -/
  accepts : ∀ order, (∃ r, d.load order text = .ok r) ↔ ∃ ps, Lists text ps
  /-- A text that cannot be loaded leaves the directory as it is. -/
  fails : ∀ order e, d.load order text = .error e → d.update (.text order text) = d
  /-- Of a document the last number of each symbol is entered, and the number of its symbols is
  told. -/
  reads : ∀ order ps d' n, Lists text ps → d.load order text = .ok (d', n) →
    d.update (.text order text) = d' ∧ n = (ps.map Prod.fst).toFinset.card ∧
      ∃ read, d' = d.insertAll read ∧ read.Nodup ∧ ∀ p, p ∈ read ↔ Lasts ps p
  /-- Where the numbers differ, the pairs of the document are known afterwards, and those from
  before that mention neither a symbol nor a number of theirs. -/
  knows : ∀ order ps d' n, Lists text ps → NumbersApart ps → d.load order text = .ok (d', n) →
    d'.pairs = {q ∈ d.pairs | ∀ p, Lasts ps p → q.1 ≠ p.1 ∧ q.2 ≠ p.2} ∪ {p | Lasts ps p} ∧
    ∀ symbol id, d'.id? symbol = some id ↔ d'.symbol? id = some symbol
  /-- The order in which the pairs are met makes no difference, -/
  anyOrder : ∀ order order' ps d' d'' n n', Lists text ps → NumbersApart ps →
    d.load order text = .ok (d', n) →
    d.load order' text = .ok (d'', n') → d'.id? = d''.id? ∧ d'.symbol? = d''.symbol? ∧ n = n'
  /-- and a second time the document changes nothing. -/
  again : ∀ order order' ps d' n, Lists text ps → NumbersApart ps →
    d.load order text = .ok (d', n) →
    d'.load order' text = .ok (d', n)

section Load

variable {d : Directory} {order : VisitOrder (String × Int64)} {text : String}
  {ps : List (String × Int64)}

theorem load_of_lists (h : Lists text ps) :
    d.load order text =
      .ok (d.insertAll (order.arrange (Assoc.ofList ps).entries), (Assoc.ofList ps).size) := by
  rw [load, pairs?_eq_some_iff.mpr ⟨ps, h, rfl⟩]

theorem load_eq_ok_iff (h : Lists text ps) {d' : Directory} {n : Nat} :
    d.load order text = .ok (d', n) ↔
      d.insertAll (order.arrange (Assoc.ofList ps).entries) = d' ∧ (Assoc.ofList ps).size = n := by
  rw [load_of_lists h, Except.ok.injEq, Prod.mk.injEq]

/-- A text is loaded where it is a document. -/
theorem exists_load_iff : (∃ r, d.load order text = .ok r) ↔ ∃ ps, Lists text ps := by
  constructor
  · rintro ⟨r, hr⟩
    cases hread : (Value.parse? text).bind pairs? with
    | some read =>
      obtain ⟨ps, hps, -⟩ := pairs?_eq_some_iff.mp hread
      exact ⟨ps, hps⟩
    | none =>
      rw [load, hread] at hr
      cases hr
  · rintro ⟨ps, hps⟩
    exact ⟨_, load_of_lists hps⟩

theorem mem_arrange_entries {p : String × Int64} :
    p ∈ order.arrange (Assoc.ofList ps).entries ↔ Lasts ps p :=
  (order.mem_arrange _ p).trans mem_entries_ofList

/-- Whatever the order in which they are met, no two of the pairs share a symbol. -/
theorem nodup_symbols_arrange : ((order.arrange (Assoc.ofList ps).entries).map Prod.fst).Nodup :=
  ((order.perm _).map Prod.fst).nodup_iff.mpr (Assoc.ofList ps).nodup

theorem nodup_ids_arrange (h : NumbersApart ps) :
    ((order.arrange (Assoc.ofList ps).entries).map Prod.snd).Nodup := by
  refine List.Nodup.map_on (fun p hp q hq => ?_) nodup_symbols_arrange.of_map
  exact h p q (mem_arrange_entries.mp hp) (mem_arrange_entries.mp hq)

theorem pairs_load (hd : d.Inverse) (hlists : Lists text ps) (happart : NumbersApart ps)
    {d' : Directory} {n : Nat} (h : d.load order text = .ok (d', n)) :
    d'.Inverse ∧ d'.pairs =
      {q ∈ d.pairs | ∀ p, Lasts ps p → q.1 ≠ p.1 ∧ q.2 ≠ p.2} ∪ {p | Lasts ps p} := by
  obtain ⟨rfl, -⟩ := (load_eq_ok_iff hlists).mp h
  obtain ⟨hinverse, hpairs⟩ := hd.insertAll (order.arrange (Assoc.ofList ps).entries)
  rw [foldl_entering nodup_symbols_arrange (nodup_ids_arrange happart)] at hpairs
  simp only [mem_arrange_entries] at hpairs
  exact ⟨hinverse, hpairs⟩

end Load

/-- Whatever a directory has come to know, a text is loaded as a whole or not at all, in any order
and with the same result however often. -/
theorem loaded_as_one (us : List Update) (text : String) : Loading (empty.updateAll us) text := by
  have hd : (empty.updateAll us).Inverse := (inverse_empty.updateAll us).1
  generalize empty.updateAll us = d at hd
  constructor
  case accepts => exact fun order => exists_load_iff
  case fails =>
    intro order e h
    rw [update, h]
  case reads =>
    intro order ps d' n hlists h
    have hupdate : d.update (.text order text) = d' := by rw [update, h]
    obtain ⟨hentered, hsize⟩ := (load_eq_ok_iff hlists).mp h
    refine ⟨hupdate, ?_, _, hentered.symm, nodup_symbols_arrange.of_map,
      fun p => mem_arrange_entries⟩
    rw [← hsize, size_ofList]
  case knows =>
    intro order ps d' n hlists happart h
    obtain ⟨hinverse, hpairs⟩ := pairs_load hd hlists happart h
    exact ⟨hpairs, hinverse⟩
  case anyOrder =>
    intro order order' ps d' d'' n n' hlists happart h h'
    obtain ⟨hinverse, hpairs⟩ := pairs_load hd hlists happart h
    obtain ⟨hinverse', hpairs'⟩ := pairs_load hd hlists happart h'
    obtain ⟨hid, hsymbol⟩ := hinverse.ext_pairs hinverse' (hpairs.trans hpairs'.symm)
    have hsize : n = n' :=
      ((load_eq_ok_iff hlists).mp h).2.symm.trans ((load_eq_ok_iff hlists).mp h').2
    exact ⟨hid, hsymbol, hsize⟩
  case again =>
    intro order order' ps d' n hlists happart h
    obtain ⟨hinverse, hpairs⟩ := pairs_load hd hlists happart h
    have hknown : ∀ p ∈ order'.arrange (Assoc.ofList ps).entries, p ∈ d'.pairs := by
      intro p hp
      rw [hpairs]
      exact .inr (mem_arrange_entries.mp hp)
    exact (load_eq_ok_iff hlists).mpr ⟨insertAll_of_known hinverse hknown,
      ((load_eq_ok_iff hlists).mp h).2⟩

/-- Two symbols change their numbers with each other, in either order, and a symbol that is given
twice counts once. -/
example :
    let d := (empty.insert "a" 1).insert "b" 2
    let backwards : VisitOrder (String × Int64) := ⟨List.reverse, List.reverse_perm⟩
    let text := "\x7b\"b\":7,\"a\":2,\"b\":1\x7d"
    ∀ order ∈ [.asKept, backwards], ∀ r ∈ (d.load order text).toOption,
      r.1.id? "a" = some 2 ∧ r.1.id? "b" = some 1 ∧ r.1.symbol? 1 = some "b" ∧ r.1.symbol? 2 =
        some "a" ∧ r.2 = 2 := by
  decide +kernel

end VenueGateway.Directory
