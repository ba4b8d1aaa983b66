import VirtualRouter.Proofs.Run.History

/-! What becomes of a packet that waits for an address. It waits until an answer under its token takes it out, or until
    the tokens have all been handed out and its own is handed out again. An answer that finds no packet does nothing. As
    long as fewer tokens than there are have been handed out, no token is handed out twice. -/

namespace VirtualRouter

variable {config : Config} {observed : Bool} {history recent past : History} {c : Controller} {x y : Entry}
  {token : Token} {n : PacketIn} {p : ParkedPacket}

/-! ### What one event does to the waiting packets -/

namespace Entry

theorem asks_cases (x : Entry) :
    (x.asks = [] ∧ x.after.parking.nextToken = x.before.parking.nextToken) ∨
      (x.asks = [x.before.parking.nextToken] ∧
        x.after.parking.nextToken = x.before.parking.nextToken.next) := by
  generalize he : x.event = e
  cases he ▸ x.dealing with
  | parked parked => exact .inr ⟨parked.tokens, by rw [parked.parking]; rfl⟩
  | astray _ _ parking _ nothing => exact .inl ⟨by simp [asks, nothing], by rw [parking]⟩
  | concluded _ _ _ parking conclusion => exact .inl ⟨conclusion.tokens, by rw [parking]⟩
  | resumed _ parking _ conclusion => exact .inl ⟨conclusion.tokens, by rw [parking]; rfl⟩
  | unasked _ parking _ nothing => exact .inl ⟨by simp [asks, nothing], by rw [parking]⟩
  | removed parking _ tokens => exact .inl ⟨tokens, by rw [parking]⟩
  | apart _ parking _ quiet => exact .inl ⟨quiet.tokens, by rw [parking]⟩

/-- An event that hands out a token parks a packet. -/
theorem parks_of_asks (h : token ∈ x.asks) : token = x.before.parking.nextToken ∧ ∃ n p, x.Parks n p := by
  generalize he : x.event = e
  cases he ▸ x.dealing with
  | @parked n p parked =>
    have asks : x.asks = [x.before.parking.nextToken] := parked.tokens
    exact ⟨by simpa [asks] using h, n, p, he, parked⟩
  | astray _ _ _ _ nothing => simp [asks, nothing] at h
  | concluded _ _ _ _ conclusion => simp [asks, conclusion.tokens] at h
  | resumed _ _ _ conclusion => simp [asks, conclusion.tokens] at h
  | unasked _ _ _ nothing => simp [asks, nothing] at h
  | removed _ _ tokens => simp [asks, tokens] at h
  | apart _ _ _ quiet => simp [asks, quiet.tokens] at h

theorem Parks.asks (h : x.Parks n p) : x.asks = [x.before.parking.nextToken] := h.2.tokens

theorem Parks.waits (h : x.Parks n p) :
    x.after.parking.waiting.get? x.before.parking.nextToken = some p := by
  rw [h.2.parking]
  exact Table.get?_insert_self ..

/-- The waiting packets of other tokens than those that an event asks under or answers. -/
theorem waiting_frame (asks : token ∉ x.asks) (answer : x.answered? ≠ some token) :
    x.after.parking.waiting.get? token = x.before.parking.waiting.get? token := by
  generalize he : x.event = e
  cases he ▸ x.dealing with
  | parked parked =>
    have other : token ≠ x.before.parking.nextToken := by
      simpa [Entry.asks, parked.tokens] using asks
    rw [parked.parking]
    simp [Parking.park, Table.get?_insert, other]
  | astray _ _ parking => rw [parking]
  | concluded _ _ _ parking => rw [parking]
  | @resumed answered mac p _ parking =>
    have other : token ≠ answered := by
      rintro rfl
      exact answer (by simp [answered?, he])
    rw [parking]
    simp [Parking.take, Table.get?_erase, other]
  | unasked _ parking => rw [parking]
  | removed parking => rw [parking]
  | apart _ parking => rw [parking]

/-- An answer of the resolver does nothing if no packet waits for it, and otherwise concludes the packet's handling. -/
theorem answered_inv (h : x.answered? = some token) :
    (x.before.parking.waiting.get? token = none ∧ x.after.parking = x.before.parking ∧
      x.after.ledger = x.before.ledger ∧ x.calls = []) ∨
    ∃ p, x.before.parking.waiting.get? token = some p ∧ x.after.parking = (x.before.parking.take token).1 ∧
      x.calls.filterMap Call.outcome? = [] ∧
      Conclusion p.buffer p.data p.isRelay p.elements p.elements x.before.ledger x.after.ledger x.calls := by
  generalize he : x.event = e
  cases he ▸ x.dealing with
  | resumed waits parking undecided conclusion =>
    obtain rfl : _ = token := by simpa [answered?, he] using h
    exact .inr ⟨_, waits, parking, undecided, conclusion⟩
  | unasked absent parking ledger nothing =>
    obtain rfl : _ = token := by simpa [answered?, he] using h
    exact .inl ⟨absent, parking, ledger, nothing⟩
  | apart lifecycle => cases e <;> simp [answered?, he, Event.isLifecycle] at h lifecycle
  | _ => simp [answered?, he] at h

/-- An answer that finds a packet concludes its handling. -/
theorem conclusion_answered (h : x.answered? = some token) (waits : x.before.parking.waiting.get? token = some p) :
    x.calls.filterMap Call.outcome? = [] ∧
      Conclusion p.buffer p.data p.isRelay p.elements p.elements x.before.ledger x.after.ledger x.calls := by
  rcases answered_inv h with ⟨absent, -⟩ | ⟨q, found, -, undecided, conclusion⟩
  · rw [waits] at absent
    cases absent
  · obtain rfl := Option.some.inj (found.symm.trans waits)
    exact ⟨undecided, conclusion⟩

/-- After an answer no packet waits under its token. -/
theorem waiting_answered (h : x.answered? = some token) : x.after.parking.waiting.get? token = none := by
  rcases answered_inv h with ⟨absent, parking, -⟩ | ⟨p, -, parking, -⟩
  · rw [parking, absent]
  · rw [parking]
    exact Table.get?_erase_self ..

theorem asks_answered (h : x.answered? = some token) : x.asks = [] := by
  rcases answered_inv h with ⟨-, -, -, nothing⟩ | ⟨p, -, -, -, conclusion⟩
  · simp [asks, nothing]
  · exact conclusion.tokens

/-- An answer that finds no packet makes no call. -/
theorem calls_unasked (h : x.answered? = some token) (absent : x.before.parking.waiting.get? token = none) :
    x.calls = [] := by
  rcases answered_inv h with ⟨-, -, -, nothing⟩ | ⟨p, waits, -⟩
  · exact nothing
  · rw [waits] at absent
    cases absent

end Entry

/-! ### Tokens -/

namespace Run

theorem nextToken_eq (run : Run config observed history c) :
    c.parking.nextToken = ⟨UInt64.ofNat history.asked.length⟩ := by
  induction run with
  | initial => rfl
  | retarget _ _ ih => exact ih
  | @handle history c a e run ih =>
    show (Entry.after ⟨c, a, e⟩).parking.nextToken = _
    rcases Entry.asks_cases ⟨c, a, e⟩ with ⟨asks, next⟩ | ⟨asks, next⟩
    · rw [next, History.asked, List.flatMap_cons, asks]
      exact ih
    · rw [next, History.asked, List.flatMap_cons, asks]
      show c.parking.nextToken.next = _
      rw [ih]
      simp [Token.next, UInt64.ofNat_add, History.asked]

/-- The tokens are handed out in order. -/
theorem asked_eq (run : Run config observed history c) :
    history.asked = ((List.range history.asked.length).map fun i => (⟨UInt64.ofNat i⟩ : Token)).reverse := by
  induction run with
  | initial => rfl
  | retarget _ _ ih => exact ih
  | @handle history c a e run ih =>
    have asked : History.asked (⟨c, a, e⟩ :: history) = Entry.asks ⟨c, a, e⟩ ++ history.asked := List.flatMap_cons ..
    rcases Entry.asks_cases ⟨c, a, e⟩ with ⟨asks, -⟩ | ⟨asks, -⟩
    · rw [asked, asks]
      exact ih
    · rw [asked, asks, run.nextToken_eq, List.singleton_append, List.length_cons, List.range_succ, List.map_append,
        List.reverse_append]
      exact congrArg _ ih

theorem asked_nodup (run : Run config observed history c) (few : history.asked.length < UInt64.size) :
    history.asked.Nodup := by
  rw [run.asked_eq, List.Nodup, List.pairwise_reverse, List.pairwise_map]
  refine List.pairwise_lt_range.imp_of_mem fun {i j} hi hj lt same => ?_
  have same : (UInt64.ofNat j).toNat = (UInt64.ofNat i).toNat := congrArg (fun t : Token => t.number.toNat) same
  rw [List.mem_range] at hi hj
  rw [UInt64.toNat_ofNat_of_lt' (by omega), UInt64.toNat_ofNat_of_lt' (by omega)] at same
  omega

/-- A token that was handed out is not handed out again while there are others. -/
theorem fresh (run : Run config observed (recent ++ x :: past) c)
    (few : (History.asked (recent ++ x :: past)).length < UInt64.size) (asks : token ∈ x.asks) :
    ∀ y ∈ recent, token ∉ y.asks := by
  intro y hy again
  have nodup := run.asked_nodup few
  rw [History.asked, List.flatMap_append, List.flatMap_cons, List.nodup_append] at nodup
  exact nodup.2.2 _ (List.mem_flatMap.2 ⟨y, hy, again⟩) _ (List.mem_append_left _ asks) rfl

end Run

/-! ### What becomes of a waiting packet -/

/-- The answer is for the packet of an event: it is under the packet's token, and the token has not been handed out again
    since. -/
def Entry.isFor (y x : Entry) (recent : History) : Bool :=
  x.asks.any fun token => y.answered? = some token && recent.all fun z => token ∉ z.asks

/-- The later answers for the packet of an event, in order. -/
def Entry.answersIn (x : Entry) : History → List Entry
  | [] => []
  | y :: recent => x.answersIn recent ++ if y.isFor x recent then [y] else []

/-- What becomes of a packet that waits under a token: it still waits, or it was answered, with nothing done by any
    further answer, or its token was handed out again. -/
inductive Fate (x : Entry) (token : Token) (p : ParkedPacket) (recent : History) (c : Controller) : Prop
  | waiting (fresh : ∀ z ∈ recent, token ∉ z.asks) (waits : c.parking.waiting.get? token = some p)
      (unanswered : x.answersIn recent = [])
  | answered (y : Entry) (late : List Entry) (mem : y ∈ recent) (answer : y.answered? = some token)
      (waits : y.before.parking.waiting.get? token = some p) (answers : x.answersIn recent = y :: late)
      (nothing : ∀ z ∈ late, z.calls = [])
      (gone : (∀ z ∈ recent, token ∉ z.asks) → c.parking.waiting.get? token = none)
  | displaced (again : ∃ z ∈ recent, token ∈ z.asks) (unanswered : x.answersIn recent = [])

/-- A waiting packet was parked when its token was last handed out. -/
theorem Run.waiting_parked (run : Run config observed history c)
    (waits : c.parking.waiting.get? token = some p) :
    ∃ recent x past n, history = recent ++ x :: past ∧ x.Parks n p ∧ x.asks = [token] ∧
      ∀ y ∈ recent, token ∉ y.asks := by
  induction run with
  | initial => cases waits
  | retarget _ _ ih => exact ih waits
  | @handle history c a e run ih =>
    have waits : (Entry.after ⟨c, a, e⟩).parking.waiting.get? token = some p := waits
    by_cases asks : token ∈ Entry.asks ⟨c, a, e⟩
    · obtain ⟨rfl, n, q, parks⟩ := Entry.parks_of_asks asks
      obtain rfl := Option.some.inj (parks.waits.symm.trans waits)
      exact ⟨[], _, history, n, rfl, parks, parks.asks, by simp⟩
    · by_cases answer : Entry.answered? ⟨c, a, e⟩ = some token
      · rw [Entry.waiting_answered answer] at waits
        cases waits
      · rw [Entry.waiting_frame asks answer] at waits
        obtain ⟨recent, x, past, n, rfl, parks, own, fresh⟩ := ih waits
        exact ⟨_ :: recent, x, past, n, rfl, parks, own, List.forall_mem_cons.2 ⟨asks, fresh⟩⟩

theorem Run.fate (run : Run config observed (recent ++ x :: past) c) (parks : x.Parks n p) :
    Fate x x.before.parking.nextToken p recent c := by
  have isFor (y : Entry) (recent : History) : y.isFor x recent = true ↔
      y.answered? = some x.before.parking.nextToken ∧ ∀ z ∈ recent, x.before.parking.nextToken ∉ z.asks := by
    simp [Entry.isFor, parks.asks]
  induction recent generalizing c with
  | nil =>
    refine .waiting (by simp) ?_ rfl
    rw [run.cons_inv.2.1]
    exact parks.waits
  | cons y recent ih =>
    obtain ⟨run, parking, -⟩ := run.cons_inv
    have answers : x.answersIn (y :: recent) = x.answersIn recent ++ if y.isFor x recent then [y] else [] := rfl
    have silent (h : ¬y.isFor x recent = true) : x.answersIn (y :: recent) = x.answersIn recent := by
      simp [answers, h]
    cases ih run with
    | waiting fresh waits unanswered =>
      by_cases asks : x.before.parking.nextToken ∈ y.asks
      · refine .displaced ⟨y, List.mem_cons_self, asks⟩ ((silent fun h => ?_).trans unanswered)
        rw [Entry.asks_answered ((isFor y recent).1 h).1] at asks
        cases asks
      · by_cases answer : y.answered? = some x.before.parking.nextToken
        · refine .answered y [] List.mem_cons_self answer waits ?_ (by simp) fun _ => ?_
          · rw [answers, unanswered, if_pos ((isFor y recent).2 ⟨answer, fresh⟩), List.nil_append]
          · rw [parking, Entry.waiting_answered answer]
        · refine .waiting (List.forall_mem_cons.2 ⟨asks, fresh⟩) ?_ ((silent fun h => ?_).trans unanswered)
          · rw [parking, Entry.waiting_frame asks answer, waits]
          · exact answer ((isFor y recent).1 h).1
    | answered z late mem answer waits found nothing gone =>
      have gone' : (∀ z ∈ y :: recent, x.before.parking.nextToken ∉ z.asks) →
          c.parking.waiting.get? x.before.parking.nextToken = none := by
        intro fresh
        obtain ⟨asks, fresh⟩ := List.forall_mem_cons.1 fresh
        rw [parking]
        by_cases answer : y.answered? = some x.before.parking.nextToken
        · exact Entry.waiting_answered answer
        · rw [Entry.waiting_frame asks answer, gone fresh]
      by_cases h : y.isFor x recent = true
      · -- The packet is gone already, so that this answer finds nothing.
        obtain ⟨again, fresh⟩ := (isFor y recent).1 h
        have silent := Entry.calls_unasked again (gone fresh)
        refine .answered z (late ++ [y]) (List.mem_cons_of_mem _ mem) answer waits ?_ ?_ gone'
        · rw [answers, found, if_pos h, List.cons_append]
        · simpa [or_imp, forall_and] using ⟨nothing, silent⟩
      · exact .answered z late (List.mem_cons_of_mem _ mem) answer waits ((silent h).trans found) nothing gone'
    | displaced again unanswered =>
      obtain ⟨z, hz, again⟩ := again
      refine .displaced ⟨z, List.mem_cons_of_mem _ hz, again⟩ ((silent fun h => ?_).trans unanswered)
      exact ((isFor y recent).1 h).2 z hz again

end VirtualRouter
