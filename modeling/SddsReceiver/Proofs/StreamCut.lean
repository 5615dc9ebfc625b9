import SddsReceiver.Output.UntilEnd

/-!
# What a cut stream shows of its source

A source may answer a look in any way at any time, and it may bring items after its end. Looked
at through a cut, it answers as it would by itself until the first answer that is the end, or an
item that ends the stream. From then on the end is all that is seen, and the source stays as that
answer left it.

A source is any state with a way to look at it. So it may keep a list of answers that is given in
advance, and it may count how often it is looked at.
-/
namespace SddsReceiver

namespace Output
variable {σ α β : Type}

def looks (look : σ → σ × Poll α) : Nat → σ → σ × List (Poll α)
  | 0, source => (source, [])
  | count + 1, source =>
      let (next, found) := look source
      let (last, rest) := looks look count next
      (last, found :: rest)

theorem looks_succ (look : σ → σ × Poll α) (count : Nat) (source : σ) :
    looks look (count + 1) source = ((looks look count (look source).1).1,
      (look source).2 :: (looks look count (look source).1).2) := rfl

/-- A list up to the first entry with a property, which is the last of what is left. -/
def throughFirst (p : β → Bool) (xs : List β) : List β := xs.take (xs.findIdx p + 1)

theorem throughFirst_cons (p : β → Bool) (x : β) (xs : List β) :
    throughFirst p (x :: xs) = x :: if p x then [] else throughFirst p xs := by
  rw [throughFirst, List.findIdx_cons, List.take_succ_cons]
  cases p x <;> rfl

namespace Poll

def isEnd : Poll α → Bool
  | ended => true
  | _ => false

def item? : Poll α → Option α
  | item value => some value
  | _ => none

/-- The end, or an item that ends the stream. -/
def closes (endsStream : α → Bool) (found : Poll α) : Bool :=
  found.isEnd || found.item?.any endsStream

def items (found : List (Poll α)) : List α := found.filterMap item?

/-- The items that are found before the first end. -/
def itemsBeforeEnd (found : List (Poll α)) : List α := items (found.takeWhile fun f => !f.isEnd)

theorem items_append_ended (found : List (Poll α)) (count : Nat) :
    items (found ++ List.replicate count ended) = items found := by
  rw [items, List.filterMap_append, List.filterMap_replicate_of_none rfl, List.append_nil, items]

theorem items_throughFirst (endsStream : α → Bool) (found : List (Poll α)) :
    items (throughFirst (closes endsStream) found) =
      throughFirst endsStream (itemsBeforeEnd found) := by
  induction found with
  | nil => rfl
  | cons f found ih =>
      rw [throughFirst_cons]
      cases f with
      | ended => rfl
      | pending => exact ih
      | item value =>
          have hbefore : itemsBeforeEnd (item value :: found) = value :: itemsBeforeEnd found := rfl
          have hcloses : (item value).closes endsStream = endsStream value := rfl
          rw [hbefore, throughFirst_cons, hcloses, ← ih]
          cases endsStream value <;> rfl

end Poll

namespace UntilEnd
variable (look : σ → σ × Poll α) (endsStream : α → Bool)

theorem isLast_eq_closes (found : Poll α) : isLast endsStream found = found.closes endsStream := by
  cases found <;> rfl

/-- While it is open, the cut shows what its source answers, and a closing answer closes it. -/
theorem poll_ofSource (source : σ) : poll look endsStream (ofSource source) =
    (⟨(look source).1, (look source).2.closes endsStream⟩, (look source).2) := by
  rw [← isLast_eq_closes]
  rfl

theorem looks_done (source : σ) (count : Nat) :
    looks (poll look endsStream) count ⟨source, true⟩ =
      (⟨source, true⟩, List.replicate count .ended) := by
  induction count with
  | zero => rfl
  | succ count ih =>
      have hdone : poll look endsStream ⟨source, true⟩ = (⟨source, true⟩, .ended) := rfl
      rw [looks_succ, hdone, ih]
      rfl

/-- The answers through the first closing one are those of the source, which has been looked at
as often as there are such answers. -/
theorem looks_ofSource (source : σ) (count : Nat) :
    let seen := (looks look count source).2
    let shown := throughFirst (Poll.closes endsStream) seen
    looks (poll look endsStream) count (ofSource source) =
      (⟨(looks look shown.length source).1, seen.any (Poll.closes endsStream)⟩,
        shown ++ List.replicate (count - shown.length) .ended) := by
  induction count generalizing source with
  | zero => rfl
  | succ count ih =>
      simp only [looks_succ, poll_ofSource, throughFirst_cons, List.any_cons]
      cases (look source).2.closes endsStream with
      | true =>
          rw [looks_done]
          rfl
      | false =>
          have hnext : (⟨(look source).1, false⟩ : UntilEnd σ) = ofSource (look source).1 := rfl
          rw [hnext, ih, Bool.false_or, if_neg Bool.false_ne_true, List.length_cons,
            Nat.add_sub_add_right, looks_succ]
          rfl

/-- Through a cut, any source is seen to answer as it does by itself, up to its first answer that
closes the cut, which is seen too. The end is seen at every look after that, and only as often as
it was seen to answer has the source been looked at. The items seen are those that the source
has before its first end, up to the first that ends the stream. -/
theorem looks_shows_through_end (source : σ) (count : Nat) :
    let seen := (looks look count source).2
    let cut := looks (poll look endsStream) count (ofSource source)
    let shown := throughFirst (Poll.closes endsStream) seen
    (cut.2 = shown ++ List.replicate (count - shown.length) .ended ∧
        Poll.items cut.2 = throughFirst endsStream (Poll.itemsBeforeEnd seen)) ∧
      cut.1.source = (looks look shown.length source).1 ∧
        cut.1.done = seen.any (Poll.closes endsStream) := by
  intro seen cut shown
  have hcut : cut = _ := looks_ofSource look endsStream source count
  rw [hcut]
  refine ⟨⟨rfl, ?_⟩, rfl, rfl⟩
  rw [Poll.items_append_ended, Poll.items_throughFirst]

/-- A source that is a list of answers, one of them behind its end. -/
example : looks (poll (fun answers => (answers.tail, answers.headD .pending)) (· == 3)) 5
    (ofSource [.pending, .item 1, .ended, .item 2]) =
      (⟨[.item 2], true⟩, [.pending, .item 1, .ended, .ended, .ended]) := rfl

end UntilEnd
end Output
end SddsReceiver
