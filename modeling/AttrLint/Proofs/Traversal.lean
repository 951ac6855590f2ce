import AttrLint.Document.Basic

namespace AttrLint

/-!
# The walk lists a document in preorder

The walk keeps a stack of elements that it has not visited yet.  What ties it to the recursive
listing is one quantity that no step changes: the elements visited so far, followed by the listings
of the elements that wait (`Walk.listing`).

* `Element.size_eq` — the size of a tree is the length of its listing, so the walk has enough steps.
* `Walk.listing_nextFor` — however many steps are made, the listing stays the same.
* `Walk.visited_nextFor`, `Walk.waiting_nextFor` — a number of steps cuts the listing in two.
* `Document.descendants_eq` — the walk through a document is its root's listing.
* `Walk.EndsAfter` — the loop without a bound on its steps; `Walk.endsAfter_iff` says when it ends.
* `Document.walk_divides_listing` — the main statement about unfinished walks.
-/

namespace Element

/-- The listing of an element starts with the element itself. -/
theorem preorder_eq (e : Element) : e.preorder = e :: preorderAll e.children := by
  cases e with
  | node head children => rw [preorder, Element.children]

/-- Listings of several elements are put one after the other. -/
@[simp] theorem preorderAll_append (es fs : List Element) :
    preorderAll (es ++ fs) = preorderAll es ++ preorderAll fs := by
  induction es with
  | nil => rfl
  | cons e es ih => rw [List.cons_append, preorderAll, preorderAll, ih, List.append_assoc]

/-- Listings of several elements are their listings, joined. -/
theorem preorderAll_eq_flatMap (es : List Element) : preorderAll es = es.flatMap preorder := by
  induction es with
  | nil => rfl
  | cons e es ih => rw [preorderAll, ih, List.flatMap_cons]

/-- Every element is listed, so only no elements have an empty listing. -/
theorem preorderAll_eq_nil_iff {es : List Element} : preorderAll es = [] ↔ es = [] := by
  cases es with
  | nil => exact iff_of_true rfl rfl
  | cons e es => simp [preorderAll, preorder_eq e]

/-- The listing of a single element, seen as several. -/
@[simp] theorem preorderAll_singleton (e : Element) : preorderAll [e] = e.preorder := by
  simp [preorderAll]

mutual

/-- Counting a tree adds the length of its listing. -/
theorem countFrom_eq (n : Nat) : (e : Element) → e.countFrom n = n + e.preorder.length
  | .node head children => by
    rw [countFrom, preorder, countAllFrom_eq (n + 1) children, List.length_cons]
    omega

/-- Counting several trees adds the lengths of their listings. -/
theorem countAllFrom_eq (n : Nat) :
    (es : List Element) → countAllFrom n es = n + (preorderAll es).length
  | [] => rfl
  | e :: es => by
    rw [countAllFrom, preorderAll, countAllFrom_eq (e.countFrom n) es, countFrom_eq n e,
      List.length_append]
    omega

end

/-- The size of a tree is the length of its listing. -/
theorem size_eq (e : Element) : e.size = e.preorder.length := by
  rw [size, countFrom_eq, Nat.zero_add]

end Element

namespace Walk

open Element

/-- What a walk has visited and what it will still visit, in the order of the visits. -/
def listing (w : Walk) : List Element :=
  w.visited.reverse ++ preorderAll w.waiting

/-- A step moves the boundary in the listing and nothing else. -/
theorem listing_next (w : Walk) : w.next.listing = w.listing := by
  unfold next listing
  split
  · rfl
  · -- The first that waits is visited, and its children wait in its place.
    rename_i e rest hw
    rw [hw, preorderAll_append, preorderAll, preorder_eq e]
    simp

/-- A step leaves one element less to visit, as long as there is one. -/
theorem length_waiting_next (w : Walk) :
    (preorderAll w.next.waiting).length = (preorderAll w.waiting).length - 1 := by
  unfold next
  split
  · rename_i hw
    rw [hw]; rfl
  · rename_i e rest hw
    rw [hw, preorderAll_append, preorderAll, preorder_eq e]
    simp

/-- No number of steps changes the listing. -/
theorem listing_nextFor (n : Nat) (w : Walk) : (nextFor n w).listing = w.listing := by
  induction n generalizing w with
  | zero => rfl
  | succ n ih => rw [nextFor, ih, listing_next]

/-- Each step counts, until nothing is left. -/
theorem length_waiting_nextFor (n : Nat) (w : Walk) :
    (preorderAll (nextFor n w).waiting).length = (preorderAll w.waiting).length - n := by
  induction n generalizing w with
  | zero => rfl
  | succ n ih => rw [nextFor, ih, length_waiting_next]; omega

/-- Both halves of the listing after `k` steps: the steps move the boundary by `k` places. -/
theorem halves_nextFor (k : Nat) (w : Walk) :
    (nextFor k w).visited.reverse = w.listing.take (w.visited.length + k) ∧
      preorderAll (nextFor k w).waiting = w.listing.drop (w.visited.length + k) := by
  have hlisting : (nextFor k w).visited.reverse ++ preorderAll (nextFor k w).waiting =
      w.listing.take (w.visited.length + k) ++ w.listing.drop (w.visited.length + k) := by
    rw [List.take_append_drop]
    exact listing_nextFor k w
  -- Steps past the end do not count on either side, so the second halves are equally long.
  apply List.append_inj' hlisting
  rw [length_waiting_nextFor, List.length_drop, listing, List.length_append, List.length_reverse]
  omega

/-- What has been visited after `k` steps from the start are the first `k` elements. -/
theorem visited_nextFor (k : Nat) (root : Element) :
    (nextFor k (start root)).visited.reverse = root.preorder.take k := by
  simpa [listing, start] using (halves_nextFor k (start root)).1

/-- What waits after `k` steps from the start are all elements but the first `k`. -/
theorem waiting_nextFor (k : Nat) (root : Element) :
    preorderAll (nextFor k (start root)).waiting = root.preorder.drop k := by
  simpa [listing, start] using (halves_nextFor k (start root)).2

/-- After as many steps as there are elements, all have been visited and none waits. -/
theorem nextFor_size (root : Element) :
    nextFor root.size (start root) = ⟨root.preorder.reverse, []⟩ := by
  have hvisited := visited_nextFor root.size root
  have hwaiting := waiting_nextFor root.size root
  rw [Element.size_eq] at hvisited hwaiting ⊢
  rw [List.take_length, List.reverse_eq_iff] at hvisited
  rw [List.drop_length, preorderAll_eq_nil_iff] at hwaiting
  rw [← hvisited, ← hwaiting]

/-! ### The loop without a bound -/

/-- Says that the loop that visits the next element as long as one waits ends after `n` visits, and
with the walk `last`. -/
inductive EndsAfter : Walk → Nat → Walk → Prop
  | done {w : Walk} : w.waiting = [] → EndsAfter w 0 w
  | more {w last : Walk} {n : Nat} :
      w.waiting ≠ [] → EndsAfter w.next n last → EndsAfter w (n + 1) last

/-- The loop always ends: it makes one visit for each element in the listings of those that wait. -/
theorem endsAfter_iff {w last : Walk} {n : Nat} :
    w.EndsAfter n last ↔ n = (preorderAll w.waiting).length ∧ last = nextFor n w := by
  constructor
  · intro h
    induction h with
    | done hw => rw [hw]; exact ⟨rfl, rfl⟩
    | @more w last n hw _ ih =>
      obtain ⟨hn, hlast⟩ := ih
      have hpos := List.length_pos_iff.mpr (mt preorderAll_eq_nil_iff.mp hw)
      rw [length_waiting_next] at hn
      exact ⟨by omega, hlast⟩
  · rintro ⟨hn, rfl⟩
    -- The number of elements left goes down by one with each visit, so the induction is on it.
    induction n generalizing w with
    | zero => exact .done (preorderAll_eq_nil_iff.mp (List.eq_nil_of_length_eq_zero hn.symm))
    | succ n ih =>
      have hw : w.waiting ≠ [] := by
        intro hnone
        rw [hnone] at hn
        cases hn
      exact .more hw (ih (by rw [length_waiting_next]; omega))

end Walk

/-- **The walk is the preorder listing.**  The loop over the stack visits every element of the
document once, each before its children and the children from left to right. -/
theorem Document.descendants_eq (d : Document) : d.descendants = d.root.preorder := by
  rw [Document.descendants, Walk.nextFor_size, List.reverse_reverse]

/-- **What waits is what has not been visited.**  The loop over the stack ends, and it does so after
one visit for each element of the tree.  However many visits `k` have been made, the elements
visited and then the listings of those that wait, the next one first, are the listing of the root;
so whoever stops there has seen the first `k` elements in document order.  While an element is being
visited, its children are still to come between it and the others that wait. -/
theorem Document.walk_divides_listing (d : Document) :
    (∀ n last, (Walk.start d.root).EndsAfter n last ↔
      n = d.root.size ∧ last = ⟨d.descendants.reverse, []⟩) ∧
    ∀ k,
      let w := Walk.nextFor k (Walk.start d.root)
      w.visited.length = min k d.root.size ∧
      w.visited.reverse ++ w.waiting.flatMap Element.preorder = d.root.preorder ∧
      w.visited.reverse = d.root.preorder.take k ∧
      ∀ e rest, w.waiting = e :: rest →
        w.visited.reverse ++ e :: (e.children.flatMap Element.preorder ++
          rest.flatMap Element.preorder) = d.root.preorder := by
  refine ⟨?_, ?_⟩
  · intro n last
    rw [Walk.endsAfter_iff, Walk.start, Element.preorderAll_singleton, ← Element.size_eq]
    apply and_congr_right
    rintro rfl
    rw [Document.descendants_eq, ← Walk.nextFor_size]
    rfl
  · intro k w
    have hvisited : w.visited.reverse = d.root.preorder.take k := Walk.visited_nextFor k d.root
    have hlisting : w.visited.reverse ++ w.waiting.flatMap Element.preorder = d.root.preorder := by
      rw [hvisited, ← Element.preorderAll_eq_flatMap, Walk.waiting_nextFor, List.take_append_drop]
    refine ⟨?_, hlisting, hvisited, ?_⟩
    · rw [← List.length_reverse, hvisited, List.length_take, Element.size_eq]
    · -- The listing of an element begins with the element, and its children follow.
      intro e rest hw
      rw [hw, List.flatMap_cons, Element.preorder_eq e, Element.preorderAll_eq_flatMap] at hlisting
      exact hlisting

/-- Stopped while the first child is being visited: the grandchild comes before the second child. -/
theorem Document.walk_divides_listing_grandchild :
    let leaf (tag : String) (line : Int) : Element := .node ⟨tag, none, [], line, 1⟩ []
    let inner : Element := .node ⟨"b", none, [], 2, 1⟩ [leaf "c" 3]
    let d : Document := ⟨.node ⟨"a", none, [], 1, 1⟩ [inner, leaf "d" 5], []⟩
    (Walk.nextFor 1 (Walk.start d.root)).waiting = [inner, leaf "d" 5] ∧
      [d.root, inner, leaf "c" 3, leaf "d" 5] = d.root.preorder := by
  intro leaf inner d
  obtain ⟨-, -, -, hvisiting⟩ := d.walk_divides_listing.2 1
  exact ⟨rfl, hvisiting inner [leaf "d" 5] rfl⟩

end AttrLint
