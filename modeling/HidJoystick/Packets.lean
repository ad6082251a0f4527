import Mathlib.Data.List.Basic

/-!
# Packets

A sender cuts data into packets of at most `m` items. The reader has said how many items
it has room for, and nothing else marks the end of a transfer: it ends with a packet that
is not full, or when the room is used up. Data that leaves room and fills its last packet
is therefore closed with an empty one.

* `packets` — what the sender makes of the data.
* `readTransfer` — what the reader makes of the packets.
* `readTransfer_packets` — **round trip**: the reader gets the data, and leaves what comes
  after the transfer alone.
* `readTransfer_of_isPrefix` — as long as a packet is missing, the reader waits for it.
* `readTransfer_append` — what the reader has got when the end has not come yet.
* `packets_append`, `transfer_chunk` — a transfer may be sent in pieces of whole packets.
-/

universe u

namespace Packets

variable {β : Type u}

/-- The packets of a transfer to a reader that has room for `room` items. Packets of no
items at all carry nothing. -/
def packets (m room : ℕ) (data : List β) : List (List β) :=
  if data.length < m then [data]
  else if room ≤ m ∨ m = 0 then [data.take m]
  else data.take m :: packets m (room - m) (data.drop m)
termination_by room

/-- The reader takes packets until the transfer ends: the data, and the packets it has not
taken. There is no result while the transfer has not ended. -/
def readTransfer (m : ℕ) : ℕ → List (List β) → Option (List β × List (List β))
  | _, [] => none
  | room, p :: ps =>
    if p.length < m ∨ room ≤ m then some (p, ps)
    else (readTransfer m (room - m) ps).map fun r => (p ++ r.1, r.2)

section Transfers

variable {m room : ℕ} {data : List β}

theorem packets_of_short (h : data.length < m) : packets m room data = [data] := by
  rw [packets, if_pos h]

theorem packets_of_last (h : m ≤ data.length) (hroom : room ≤ m) :
    packets m room data = [data.take m] := by
  rw [packets, if_neg (by omega), if_pos (Or.inl hroom)]

theorem packets_of_more (hm : 0 < m) (h : m ≤ data.length) (hroom : m < room) :
    packets m room data = data.take m :: packets m (room - m) (data.drop m) := by
  rw [packets, if_neg (by omega), if_neg (by omega)]

/-- The first packet, and the rest of the transfer if it goes on -/
theorem packets_eq (hm : 0 < m) : packets m room data = data.take m ::
    (if data.length < m ∨ room ≤ m then [] else packets m (room - m) (data.drop m)) := by
  by_cases hshort : data.length < m
  · rw [packets_of_short hshort, if_pos (Or.inl hshort), List.take_of_length_le (by omega)]
  · by_cases hroom : room ≤ m
    · rw [packets_of_last (by omega) hroom, if_pos (Or.inr hroom)]
    · rw [packets_of_more hm (by omega) (by omega), if_neg (by omega)]

theorem packets_ne_nil : packets m room data ≠ [] := by
  rw [packets]
  split
  · exact List.cons_ne_nil _ _
  · split
    · exact List.cons_ne_nil _ _
    · exact List.cons_ne_nil _ _

/-- No packet is longer than `m`. -/
theorem length_le_of_mem_packets {p : List β} (h : p ∈ packets m room data) : p.length ≤ m := by
  induction room, data using packets.induct m with
  | case1 room data hshort =>
    rw [packets_of_short hshort, List.mem_singleton] at h
    rw [h]
    omega
  | case2 room data hlong hlast =>
    rw [packets, if_neg hlong, if_pos hlast, List.mem_singleton] at h
    rw [h]
    exact List.length_take_le m data
  | case3 room data hlong hmore ih =>
    rw [packets, if_neg hlong, if_neg hmore] at h
    rcases List.mem_cons.mp h with rfl | h
    · exact List.length_take_le m data
    · exact ih h

/-- The packets carry the data and nothing else. -/
theorem flatten_packets (hm : 0 < m) (hroom : data.length ≤ room) :
    (packets m room data).flatten = data := by
  induction room, data using packets.induct m with
  | case1 room data hshort => rw [packets_of_short hshort, List.flatten_singleton]
  | case2 room data hlong hlast =>
    have hlast' : room ≤ m := hlast.resolve_right (by omega)
    rw [packets_of_last (by omega) hlast', List.flatten_singleton, List.take_of_length_le (by omega)]
  | case3 room data hlong hmore ih =>
    have hdrop : (data.drop m).length ≤ room - m := by
      rw [List.length_drop]
      omega
    rw [packets_of_more hm (by omega) (by omega), List.flatten_cons, ih hdrop,
      List.take_append_drop]

/-- **Round trip**: the reader gets the data back. -/
theorem readTransfer_packets (hm : 0 < m) (hroom : data.length ≤ room) (rest : List (List β)) :
    readTransfer m room (packets m room data ++ rest) = some (data, rest) := by
  induction room, data using packets.induct m with
  | case1 room data hshort =>
    rw [packets_of_short hshort, List.singleton_append, readTransfer, if_pos (Or.inl hshort)]
  | case2 room data hlong hlast =>
    have hlast' : room ≤ m := hlast.resolve_right (by omega)
    rw [packets_of_last (by omega) hlast', List.singleton_append, readTransfer,
      if_pos (Or.inr hlast'), List.take_of_length_le (by omega)]
  | case3 room data hlong hmore ih =>
    have hdrop : (data.drop m).length ≤ room - m := by
      rw [List.length_drop]
      omega
    have hfull : (data.take m).length = m := by
      rw [List.length_take]
      omega
    rw [packets_of_more hm (by omega) (by omega), List.cons_append, readTransfer,
      if_neg (by rw [hfull]; omega), ih hdrop, Option.map_some, List.take_append_drop]

/-- **The end cannot be taken for granted**: with a packet missing, the reader waits. -/
theorem readTransfer_of_isPrefix (hm : 0 < m) {ps : List (List β)}
    (h : ps <+: packets m room data) (hne : ps ≠ packets m room data) :
    readTransfer m room ps = none := by
  induction room, data using packets.induct m generalizing ps with
  | case1 room data hshort =>
    rw [packets_of_short hshort] at h hne
    rcases List.prefix_cons_iff.mp h with rfl | ⟨t, rfl, ht⟩
    · rfl
    · rw [List.prefix_nil.mp ht] at hne
      exact absurd rfl hne
  | case2 room data hlong hlast =>
    rw [packets, if_neg hlong, if_pos hlast] at h hne
    rcases List.prefix_cons_iff.mp h with rfl | ⟨t, rfl, ht⟩
    · rfl
    · rw [List.prefix_nil.mp ht] at hne
      exact absurd rfl hne
  | case3 room data hlong hmore ih =>
    have hfull : (data.take m).length = m := by
      rw [List.length_take]
      omega
    rw [packets_of_more hm (by omega) (by omega)] at h hne
    rcases List.prefix_cons_iff.mp h with rfl | ⟨t, rfl, ht⟩
    · rfl
    · -- a full packet with room left is not the last
      have hrest : t ≠ packets m (room - m) (data.drop m) := fun heq => hne (by rw [heq])
      rw [readTransfer, if_neg (by rw [hfull]; omega), ih ht hrest, Option.map_none]

/-- Full packets that leave room are part of what is read, -/
theorem readTransfer_append {ps rest : List (List β)} (hfull : ∀ p ∈ ps, p.length = m)
    (hroom : ps.flatten.length < room) :
    readTransfer m room (ps ++ rest) =
      (readTransfer m (room - ps.flatten.length) rest).map fun r => (ps.flatten ++ r.1, r.2) := by
  induction ps generalizing room with
  | nil => simp
  | cons p ps ih =>
    have hp : p.length = m := hfull p List.mem_cons_self
    rw [List.flatten_cons, List.length_append] at hroom ⊢
    rw [List.cons_append, readTransfer, if_neg (by omega),
      ih (fun q hq => hfull q (List.mem_cons_of_mem p hq)) (by omega), Option.map_map, ← Nat.sub_sub,
      hp]
    simp only [Function.comp_def, List.append_assoc]

/-- the reader waits for more after them, -/
theorem readTransfer_of_full {ps : List (List β)} (hfull : ∀ p ∈ ps, p.length = m)
    (hroom : ps.flatten.length < room) : readTransfer m room ps = none := by
  have happend : readTransfer m room (ps ++ []) = none := readTransfer_append hfull hroom
  rwa [List.append_nil] at happend

/-- and the last packet ends the transfer. -/
theorem readTransfer_of_last {ps : List (List β)} {p : List β} (hfull : ∀ p ∈ ps, p.length = m)
    (hroom : ps.flatten.length < room) (hlast : p.length < m ∨ room - ps.flatten.length ≤ m) :
    readTransfer m room (ps ++ [p]) = some (ps.flatten ++ p, []) := by
  rw [readTransfer_append hfull hroom, readTransfer, if_pos hlast]
  rfl

end Transfers

/-! ## Pieces -/

section Pieces

variable {m room : ℕ}

/-- **A transfer in pieces**: as long as a piece is made of whole packets and the reader has
room for more, the next piece goes on where it ended. -/
theorem packets_append (hm : 0 < m) {a b : List β} (hdvd : m ∣ a.length) (ha : a ≠ [])
    (hroom : a.length < room) :
    packets m room (a ++ b) = packets m a.length a ++ packets m (room - a.length) b := by
  obtain ⟨k, hk⟩ := hdvd
  have hpos : 0 < a.length := List.length_pos_iff.mpr ha
  induction k generalizing room a with
  | zero => omega
  | succ k ih =>
    rw [Nat.mul_succ] at hk
    have hfirst : (a ++ b).take m = a.take m := List.take_append_of_le_length (by omega)
    have hrest : (a ++ b).drop m = a.drop m ++ b := List.drop_append_of_le_length (by omega)
    have hdrop : (a.drop m).length = a.length - m := List.length_drop
    rw [packets_of_more hm (by rw [List.length_append]; omega) (by omega), hfirst, hrest]
    rcases Nat.eq_zero_or_pos (m * k) with hzero | hmore
    · -- this was the last packet of the piece
      have hnil : a.drop m = [] := List.drop_eq_nil_of_le (by omega)
      have hlast : packets m a.length a = [a.take m] := packets_of_last (by omega) (by omega)
      have hlen : a.length = m := by omega
      rw [hlast, hnil, hlen, List.nil_append, List.singleton_append]
    · have hne : a.drop m ≠ [] := List.ne_nil_of_length_pos (by omega)
      have hdiff : room - m - (a.length - m) = room - a.length := by omega
      have hpiece : packets m a.length a = a.take m :: packets m (a.length - m) (a.drop m) :=
        packets_of_more hm (by omega) (by omega)
      rw [hpiece, ih hne (by omega) (by omega) (by omega), hdrop, hdiff, List.cons_append]

/-- With room for one item more, data that fills its last packet is closed with an empty
one. -/
theorem packets_succ (hm : 0 < m) {data : List β} (h : data ≠ []) :
    packets m (data.length + 1) data =
      packets m data.length data ++ (if m ∣ data.length then [[]] else []) := by
  have hpos : 0 < data.length := List.length_pos_iff.mpr h
  split
  · next hdvd =>
    have happend := packets_append (b := []) hm hdvd h (Nat.lt_succ_self data.length)
    have hempty : ([] : List β).length < m := hm
    rw [List.append_nil, Nat.succ_sub (Nat.le_refl _), Nat.sub_self,
      packets_of_short hempty] at happend
    exact happend
  · next hdvd =>
    rw [List.append_nil]
    induction hn : data.length using Nat.strongRecOn generalizing data with
    | _ n ih =>
      subst hn
      by_cases hshort : data.length < m
      · rw [packets_of_short hshort, packets_of_short hshort]
      · have hne : data.length ≠ m := fun heq => hdvd (heq ▸ Nat.dvd_refl _)
        have hdrop : (data.drop m).length = data.length - m := List.length_drop
        have hdvd' : ¬ m ∣ (data.drop m).length := fun hd =>
          hdvd ((Nat.dvd_sub_iff_left (by omega) (Nat.dvd_refl m)).mp (hdrop ▸ hd))
        have hrest := ih _ (by omega) (List.ne_nil_of_length_pos (by omega)) (by omega) hdvd' rfl
        have hlast : packets m data.length data =
            data.take m :: packets m (data.length - m) (data.drop m) :=
          packets_of_more hm (by omega) (by omega)
        rw [hlast, packets_of_more hm (by omega) (by omega), Nat.sub_add_comm (by omega), ← hdrop,
          hrest]

end Pieces

/-! ## Chunks -/

section Chunks

variable {m : ℕ} {close : Bool} {data : List β}

/-- The packets of data a sender cuts on its own account: with `close` it tells the reader
the end by an empty packet if the last one is full. -/
def transfer (m : ℕ) (close : Bool) (data : List β) : List (List β) :=
  if data.isEmpty then if close then [[]] else []
  else packets m (data.length + if close then 1 else 0) data

theorem transfer_of_ne_nil (h : data ≠ []) :
    transfer m close data = packets m (data.length + if close then 1 else 0) data :=
  if_neg (by simpa using h)

theorem transfer_ne_nil (h : close = true ∨ data ≠ []) : transfer m close data ≠ [] := by
  by_cases hne : data = []
  · rcases h with rfl | h
    · rw [hne]
      exact List.cons_ne_nil _ _
    · exact absurd hne h
  · rw [transfer_of_ne_nil hne]
    exact packets_ne_nil

/-- The transfer carries the data and nothing else. -/
theorem flatten_transfer (hm : 0 < m) : (transfer m close data).flatten = data := by
  by_cases hne : data = []
  · rw [hne]
    cases close <;> rfl
  · rw [transfer_of_ne_nil hne]
    exact flatten_packets hm (Nat.le_add_right _ _)

/-- **A transfer in chunks**: each chunk but the last is made of whole packets, and the
sender forgets to close the transfer after a chunk that ends with a packet that is not
full. -/
theorem transfer_chunk (hm : 0 < m) {c : ℕ} (hc : 0 < c) (hle : c ≤ data.length)
    (hdvd : c < data.length → m ∣ c) :
    transfer m close data =
      packets m c (data.take c) ++ transfer m (close && c % m == 0) (data.drop c) := by
  have hne : data ≠ [] := List.ne_nil_of_length_pos (by omega)
  rw [transfer_of_ne_nil hne]
  rcases Nat.lt_or_eq_of_le hle with hlt | rfl
  · have hwhole : (c % m == 0) = true := beq_iff_eq.mpr (Nat.mod_eq_zero_of_dvd (hdvd hlt))
    have htake : (data.take c).length = c := by
      rw [List.length_take]
      omega
    have hdrop : (data.drop c).length = data.length - c := List.length_drop
    have hrest : data.drop c ≠ [] := List.ne_nil_of_length_pos (by omega)
    have hroom : (data.take c).length < data.length + if close then 1 else 0 := by omega
    have happend := packets_append (b := data.drop c) hm (htake.symm ▸ hdvd hlt)
      (List.ne_nil_of_length_pos (by omega)) hroom
    rw [List.take_append_drop, htake] at happend
    rw [happend, hwhole, Bool.and_true, transfer_of_ne_nil hrest, hdrop, Nat.sub_add_comm hle]
  · -- the last chunk
    have hempty : transfer m (close && data.length % m == 0) (data.drop data.length) =
        if close && data.length % m == 0 then [[]] else [] := by
      rw [List.drop_length]
      rfl
    rw [List.take_length, hempty]
    cases close with
    | false => exact (List.append_nil _).symm
    | true =>
      have hiff : (true && data.length % m == 0) = true ↔ m ∣ data.length := by
        rw [Bool.true_and, beq_iff_eq, Nat.dvd_iff_mod_eq_zero]
      rw [if_congr hiff rfl rfl]
      exact packets_succ hm hne

end Chunks

end Packets
