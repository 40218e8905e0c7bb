import VenueGateway.Proofs.Client.Numbering

/-!
The order of requests on the wire. A sender takes its number before it waits for the writer, so
another may take the next number and still write first. Main statement: this is the only way in
which a request comes after one with a larger number.
-/

namespace VenueGateway.Client

/-- Of two requests, the one that sender `i` writes as the mark at `a` overtakes that of sender `j`:
its number is taken when the other one has been, and the other one is still to be written. -/
def Overtakes (ms : List (Nat × Mark)) (a i j : Nat) (f g : Frame) : Prop :=
  ∃ q p, q < p ∧ p < a ∧ ms[q]? = some (j, .took g.sequence) ∧ ms[p]? = some (i, .took f.sequence)

section Order

variable {c : Client} {ms : List (Nat × Mark)} {k : Nat} (h : Ledger c ms k)
  {a b i j : Nat} {f g : Frame}
  (hab : a < b) (ha : ms[a]? = some (i, .wrote f)) (hb : ms[b]? = some (j, .wrote g))

include h hab ha hb

theorem taken_in_order_or_overtakes : Overtakes ms a i j f g ∨
    ∃ p q, p < q ∧ p < a ∧ q < b ∧ ms[p]? = some (i, .took f.sequence) ∧
    ms[q]? = some (j, .took g.sequence) := by
  obtain ⟨p, hpa, q, hqb, hp, hq, hpq⟩ := h.taken_apart hab ha hb
  obtain hlt | hgt := Nat.lt_or_gt_of_ne hpq
  · exact .inr ⟨p, q, hlt, hpa, hqb, hp, hq⟩
  · exact .inl ⟨q, p, hgt, hpa, hq, hp⟩

theorem lt_iff_not_overtakes (hk : k < 2 ^ 62) :
    f.sequence < g.sequence ↔ ¬ Overtakes ms a i j f g := by
  constructor
  · rintro hlt ⟨q, p, hqp, -, hq, hp⟩
    exact Int64.lt_asymm hlt (h.number_lt hk hqp hq hp)
  · intro hnot
    obtain hovertakes | ⟨p, q, hpq, -, -, hp, hq⟩ := taken_in_order_or_overtakes h hab ha hb
    · exact absurd hovertakes hnot
    · exact h.number_lt hk hpq hp hq

end Order

/-- How the requests of a run that has left these marks follow each other on the wire, when so many
have been called for. Only if there are very many do the numbers run out. -/
structure Ordered (c : Client) (ms : List (Nat × Mark)) (calls : Nat) : Prop where
  /-- They are on the wire in the order in which they are written, -/
  wire : c.shared.requests = frames ms
  /-- each under the number that its sender took before. -/
  taken : ∀ (a i : Nat) (f : Frame), ms[a]? = some (i, .wrote f) → ∃ p < a, ms[p]? =
    some (i, .took f.sequence)
  /-- The one that is written first took its number first, unless it has overtaken the other. -/
  order : ∀ (a b i j : Nat) (f g : Frame), a < b → ms[a]? = some (i, .wrote f) →
    ms[b]? = some (j, .wrote g) →
    Overtakes ms a i j f g ∨
      ∃ p q, p < q ∧ p < a ∧ q < b ∧ ms[p]? = some (i, .took f.sequence) ∧
        ms[q]? = some (j, .took g.sequence)
  /-- Whoever takes a number later takes a larger one, -/
  grows : calls < 2 ^ 62 → ∀ (p q i j : Nat) (m n : Int64), p < q → ms[p]? = some (i, .took m) →
    ms[q]? = some (j, .took n) → m < n
  /-- so the request that is written first has the smaller number just where it has not overtaken
  the other, -/
  smaller : calls < 2 ^ 62 → ∀ (a b i j : Nat) (f g : Frame), a < b → ms[a]? = some (i, .wrote f) →
    ms[b]? = some (j, .wrote g) → (f.sequence < g.sequence ↔ ¬ Overtakes ms a i j f g)
  /-- and where none is overtaken, the numbers on the wire increase. -/
  increases : calls < 2 ^ 62 →
    (∀ (a b i j : Nat) (f g : Frame), a < b → ms[a]? = some (i, .wrote f) →
    ms[b]? = some (j, .wrote g) → ¬ Overtakes ms a i j f g) →
    (c.shared.requests.map Frame.sequence).Pairwise (· < ·)

/-- A request with a smaller number comes later only if it was overtaken while its sender waited for
the writer. -/
theorem ordered_unless_overtaken (settings : ConnectionSettings) (as : List Action) :
    Ordered ((new settings).run as) ((new settings).marks as) (calls as) := by
  have h := ledger_run settings as
  constructor
  case wire => exact h.requests
  case taken => exact fun a i f ha => h.taken ha
  case order => exact fun a b i j f g hab ha hb => taken_in_order_or_overtakes h hab ha hb
  case grows => exact fun hcalls p q i j m n hpq hp hq => h.number_lt hcalls hpq hp hq
  case smaller => exact fun hcalls a b i j f g hab ha hb => lt_iff_not_overtakes h hab ha hb hcalls
  case increases =>
    intro hcalls hnone
    rw [h.requests, List.pairwise_map]
    exact frames_pairwise fun a b i j f g hab ha hb =>
      (lt_iff_not_overtakes h hab ha hb hcalls).mpr (hnone a b i j f g hab ha hb)

/-- Two requests are sent at once: the first sender takes a number, the second one takes the next
and writes, and then the first one writes. -/
def crossing : List Action :=
  [[.connect], List.replicate 5 (.step 0 .fine),
    [.send "GetOrderStatus" "{}", .send "SendOrder" "{}"], List.replicate 2 (.step 2 .fine),
    List.replicate 4 (.step 3 .fine), List.replicate 2 (.step 2 .fine)].flatten

/-- So the numbers on the wire do not increase in every run of a connected client. -/
theorem crossing_descends :
    ((new {}).run crossing).shared.state = .connected ∧
      ((new {}).run crossing).shared.requests.map Frame.sequence = [4, 2] ∧
      ¬ (((new {}).run crossing).shared.requests.map Frame.sequence).Pairwise (· < ·) := by
  have hnumbers : ((new {}).run crossing).shared.requests.map Frame.sequence = [4, 2] := rfl
  refine ⟨rfl, hnumbers, ?_⟩
  rw [hnumbers]
  decide

example : Overtakes ((new {}).marks crossing) 4 3 2 (.request 4 "SendOrder" "{}")
    (.request 2 "GetOrderStatus" "{}") :=
  ⟨1, 3, by decide, by decide, rfl, rfl⟩

end VenueGateway.Client
