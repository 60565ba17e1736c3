import CommitGate.Proofs.Except
import CommitGate.Proofs.Text.Form
import CommitGate.Url.Reader

/-! # What follows the host of a URL

The path, the query and the fragment are read from the text behind the host. Reading settles them: it
resolves the dots, encodes what cannot stand for itself, and finds nothing left to do when it reads the same
parts again.

* `Url.front` and `Url.tail`: a URL as text, cut behind the port;
* `Url.readTail`: how the latter is read, by `readTail_of_readFromAuthority`;
* `Url.Settled`: what holds of these parts of a URL that was read, by `settled_of_read`;
* `Url.readTail_tail`: settled parts are read back from their text.
-/

namespace CommitGate

/-- The characters of an encoded text may all stand for themselves if those of an escape may. -/
theorem Percent.plain_of_mem_encode {plain : Char → Bool} (percent : plain '%' = true)
    (digit : ∀ d, isDigit d = true → plain d = true) {s : List Char} {c : Char}
    (h : c ∈ encode plain s) : plain c = true := by
  obtain ⟨d, -, hc⟩ := List.mem_flatMap.1 h
  rcases of_mem_encodeChar hc with ⟨rfl, stands⟩ | rfl | hex
  · exact stands
  · exact percent
  · exact digit c hex

namespace Url

/-! ## Paths -/

/-- A segment that reading leaves as it is. -/
structure IsSettled (segment : List Char) : Prop where
  characters : ∀ c ∈ segment, inPath c = true ∧ isSlash c = false
  notHere : isHere segment = false
  notAbove : isAbove segment = false

/-- The empty segment is settled. -/
theorem isSettled_nil : IsSettled [] := ⟨by simp, rfl, rfl⟩

/-- Where a segment leads to from a place. -/
def step (place : List (List Char)) (s : List Char) : List (List Char) :=
  if isAbove s then place.dropLast else if isHere s then place else place ++ [s]

theorem step_of_isSettled {s : List Char} (h : IsSettled s) (place : List (List Char)) :
    step place s = place ++ [s] := by
  simp only [step, h.notAbove, h.notHere]
  rfl

/-- A step keeps to settled segments if the segment is without what must be encoded: dots are no segments
of the place that they lead to. -/
theorem isSettled_of_mem_step {place : List (List Char)} {s : List Char}
    (hp : ∀ t ∈ place, IsSettled t) (hs : ∀ c ∈ s, inPath c = true ∧ isSlash c = false) :
    ∀ t ∈ step place s, IsSettled t := by
  intro t ht
  unfold step at ht
  split at ht
  · exact hp t ((List.dropLast_sublist place).mem ht)
  · rename_i notAbove
    split at ht
    · exact hp t ht
    · rename_i notHere
      rcases List.mem_append.1 ht with ht | ht
      · exact hp t ht
      · rw [List.mem_singleton.1 ht]
        exact ⟨hs, Bool.eq_false_iff.2 notHere, Bool.eq_false_iff.2 notAbove⟩

/-- A walk makes one step after the other. -/
theorem walk_cons (place : List (List Char)) (s next : List Char) (rest : List (List Char)) :
    walk place (s :: next :: rest) = walk (step place s) (next :: rest) := by
  rw [walk, step]
  intro h
  cases h

/-- After the last step it stands at a segment, which is empty if dots have led there. -/
theorem walk_singleton (place : List (List Char)) (s : List Char) :
    walk place [s] = step place s ++ if isAbove s || isHere s then [[]] else [] := by
  unfold walk step
  by_cases above : isAbove s = true
  · simp [above]
  · by_cases here : isHere s = true
    · simp [above, here]
    · simp [above, here]

/-- A walk along settled segments goes straight on. -/
theorem walk_of_isSettled {segments : List (List Char)} (h : ∀ s ∈ segments, IsSettled s)
    (place : List (List Char)) : walk place segments = place ++ segments := by
  induction segments generalizing place with
  | nil => rw [walk, List.append_nil]
  | cons s rest ih =>
    have first : IsSettled s := h s List.mem_cons_self
    have others : ∀ t ∈ rest, IsSettled t := fun t ht => h t (List.mem_cons_of_mem _ ht)
    cases rest with
    | nil =>
      rw [walk_singleton, step_of_isSettled first, first.notAbove, first.notHere]
      exact List.append_nil _
    | cons next rest =>
      rw [walk_cons, ih others, step_of_isSettled first, List.append_assoc]
      rfl

/-- A walk keeps to settled segments. -/
theorem isSettled_of_mem_walk {place segments : List (List Char)} (hp : ∀ s ∈ place, IsSettled s)
    (hs : ∀ s ∈ segments, ∀ c ∈ s, inPath c = true ∧ isSlash c = false) :
    ∀ s ∈ walk place segments, IsSettled s := by
  -- on the segments: what a step leads to is settled, and that is where the others start
  induction segments generalizing place with
  | nil =>
    rw [walk]
    exact hp
  | cons s rest ih =>
    have first : ∀ t ∈ step place s, IsSettled t := isSettled_of_mem_step hp (hs s List.mem_cons_self)
    cases rest with
    | nil =>
      intro t ht
      rw [walk_singleton, List.mem_append] at ht
      rcases ht with ht | ht
      · exact first t ht
      · split at ht
        · rw [List.mem_singleton.1 ht]
          exact isSettled_nil
        · cases ht
    | cons next rest =>
      rw [walk_cons]
      exact ih first fun t ht => hs t (List.mem_cons_of_mem _ ht)

/-- A walk ends at some segment. -/
theorem walk_ne_nil (place : List (List Char)) {segments : List (List Char)} (ne : segments ≠ []) :
    walk place segments ≠ [] := by
  induction segments generalizing place with
  | nil => exact absurd rfl ne
  | cons s rest ih =>
    cases rest with
    | nil =>
      rw [walk_singleton, step]
      by_cases above : isAbove s = true
      · simp [above]
      · by_cases here : isHere s = true
        · simp [here]
        · simp [above, here]
    | cons next rest =>
      rw [walk_cons]
      exact ih _ (List.cons_ne_nil _ _)

/-- What can stand in an escape can stand in a path, a query and a fragment. -/
theorem inPath_of_mem_encode {s : List Char} {c : Char} (h : c ∈ Percent.encode inPath s) :
    inPath c = true :=
  Percent.plain_of_mem_encode (by decide) (Percent.forall_isDigit (by decide)) h

theorem inQuery_of_mem_encode {s : List Char} {c : Char} (h : c ∈ Percent.encode inQuery s) :
    inQuery c = true :=
  Percent.plain_of_mem_encode (by decide) (Percent.forall_isDigit (by decide)) h

theorem inFragment_of_mem_encode {s : List Char} {c : Char} (h : c ∈ Percent.encode inFragment s) :
    inFragment c = true :=
  Percent.plain_of_mem_encode (by decide) (Percent.forall_isDigit (by decide)) h

/-- Reading a path settles its segments. -/
theorem isSettled_of_mem_readPath (s : List Char) : ∀ t ∈ readPath [] s, IsSettled t := by
  refine isSettled_of_mem_walk (by simp) fun segment hs c hc => ?_
  obtain ⟨part, hpart, rfl⟩ := List.mem_map.1 hs
  refine ⟨inPath_of_mem_encode hc, ?_⟩
  -- a slash would stand for itself, but the text was cut at the slashes of both kinds
  obtain ⟨d, hd, hcd⟩ := List.mem_flatMap.1 hc
  rcases Percent.of_mem_encodeChar hcd with ⟨rfl, -⟩ | rfl | hex
  · rw [Split.on_eq_splitOn] at hpart
    obtain ⟨mapped, notSlash⟩ := of_mem_splitOn hpart hd
    obtain ⟨e, -, he⟩ := List.mem_map.1 mapped
    have notBackslash : c ≠ '\\' := by
      rintro rfl
      split at he
      · cases he
      · rename_i other
        exact other he
    simp [isSlash, notSlash, notBackslash]
  · decide
  · have other := Percent.forall_isDigit (P := fun c => isSlash c = false) (by decide) c hex
    exact other

theorem readPath_ne_nil (s : List Char) : readPath [] s ≠ [] :=
  walk_ne_nil [] (by simp [Split.on_ne_nil])

/-- A settled path is read back. -/
theorem readPath_intercalate {path : List (List Char)} (ne : path ≠ [])
    (h : ∀ s ∈ path, IsSettled s) : readPath [] (List.intercalate ['/'] path) = path := by
  have noSlash : ∀ s ∈ path, '/' ∉ s := by
    intro s hs slash
    exact absurd ((h s hs).characters _ slash).2 (by decide)
  have kept : (List.intercalate ['/'] path).map (fun c => if c = '\\' then '/' else c) =
      List.intercalate ['/'] path := by
    refine map_eq_self fun c hc => if_neg ?_
    rintro rfl
    rcases of_mem_intercalate hc with same | ⟨s, hs, inside⟩
    · cases same
    · exact absurd ((h s hs).characters _ inside).2 (by decide)
  have encoded : path.map (Percent.encode inPath) = path :=
    map_eq_self fun s hs => Percent.encode_eq_self fun c hc => ((h s hs).characters c hc).1
  rw [readPath, kept, Split.on_intercalate ne noSlash, encoded, walk_of_isSettled h, List.nil_append]

/-! ## The tail -/

/-- All that stands before the path. -/
def front (u : Url) : List Char := u.scheme.name ++ "://".toList ++ u.userText ++ u.hostText

/-- The path, the query and the fragment with their signs. -/
def tail (u : Url) : List Char := u.targetText ++ u.fragment.elim [] fun f => '#' :: f

theorem text_eq (u : Url) : u.text = u.front ++ u.tail := by
  rw [text, front, tail, List.append_assoc, List.append_assoc]

/-- The path, the query and the fragment that stand behind a host. -/
def readTail (s : List Char) : List (List Char) × Option (List Char) × Option (List Char) :=
  let (path, query, fragment) := splitTail s
  (readPath [] (path.drop 1), query, fragment)

/-- A URL whose path, query and fragment reading leaves as they are. -/
structure Settled (u : Url) : Prop where
  path_ne_nil : u.path ≠ []
  path : ∀ s ∈ u.path, IsSettled s
  query : ∀ q ∈ u.query, ∀ c ∈ q, inQuery c = true
  fragment : ∀ f ∈ u.fragment, ∀ c ∈ f, inFragment c = true

theorem inQuery_of_mem_splitTail {s q : List Char} {c : Char} (h : (splitTail s).2.1 = some q)
    (hc : c ∈ q) : inQuery c = true := by
  rw [splitTail] at h
  dsimp only at h
  split at h
  · cases h
  · cases h
    exact inQuery_of_mem_encode hc

theorem inFragment_of_mem_splitTail {s f : List Char} {c : Char} (h : (splitTail s).2.2 = some f)
    (hc : c ∈ f) : inFragment c = true := by
  rw [splitTail] at h
  dsimp only at h
  split at h
  · cases h
  · cases h
    exact inFragment_of_mem_encode hc

/-- What is read is settled, whatever stands there. -/
theorem settled_of_readTail {u : Url} {s : List Char}
    (h : readTail s = (u.path, u.query, u.fragment)) : u.Settled := by
  have path : readPath [] ((splitTail s).1.drop 1) = u.path := congrArg Prod.fst h
  have query : (splitTail s).2.1 = u.query := congrArg (fun parts => parts.2.1) h
  have fragment : (splitTail s).2.2 = u.fragment := congrArg (fun parts => parts.2.2) h
  constructor
  · rw [← path]
    exact readPath_ne_nil _
  · rw [← path]
    exact isSettled_of_mem_readPath _
  · intro q hq c hc
    exact inQuery_of_mem_splitTail (query.trans hq) hc
  · intro f hf c hc
    exact inFragment_of_mem_splitTail (fragment.trans hf) hc

/-- Behind the authority of a URL stands its tail. -/
theorem readTail_of_readFromAuthority {scheme : Scheme} {s : List Char} {u : Url}
    (h : readFromAuthority scheme s = .ok u) :
    readTail (s.drop (s.takeWhile fun c => !endsAuthority c).length) =
      (u.path, u.query, u.fragment) := by
  unfold readFromAuthority at h
  obtain ⟨⟨⟨username, password⟩, host, port⟩, -, h⟩ := bind_eq_ok_iff.1 h
  cases h
  rfl

/-- Reading settles a URL. -/
theorem settled_of_read {s : List Char} {u : Url} (h : read s = .ok (.web u)) : u.Settled := by
  unfold read at h
  split at h
  · rename_i kind rest _
    -- only the schemes of the web have URLs that are kept
    cases kind with
    | web scheme =>
      obtain ⟨v, hv, same⟩ := map_eq_ok_iff.1 h
      cases same
      exact settled_of_readTail (readTail_of_readFromAuthority hv)
    | webLike =>
      obtain ⟨v, -, same⟩ := map_eq_ok_iff.1 h
      cases same
    | file =>
      obtain ⟨v, -, same⟩ := map_eq_ok_iff.1 h
      cases same
    | foreign =>
      obtain ⟨v, -, same⟩ := map_eq_ok_iff.1 h
      cases same
  · cases h

/-- A part that begins with a sign ends what stands before it. -/
theorem takeWhile_part {sign : Char} {s : List Char} (h : sign ∉ s) (part : Option (List Char)) :
    (s ++ part.elim [] fun p => sign :: p).takeWhile (· != sign) = s := by
  cases part with
  | none =>
    have other : ∀ c ∈ s, (c != sign) = true := fun c hc => bne_iff_ne.2 fun same => h (same ▸ hc)
    rw [List.takeWhile_append_of_pos other]
    exact List.append_nil s
  | some p => exact takeWhile_ne h

/-- A part without anything to encode is read back. -/
theorem read_part {plain : Char → Bool} {sign : Char} {part : Option (List Char)}
    (h : ∀ p ∈ part, ∀ c ∈ p, plain c = true) :
    (if (part.elim [] fun p => sign :: p).isEmpty then none
      else some (Percent.encode plain ((part.elim [] fun p => sign :: p).drop 1))) = part := by
  cases part with
  | none => rfl
  | some p => exact congrArg some (Percent.encode_eq_self (h p rfl))

/-- Settled parts are read back from their text. -/
theorem readTail_tail {u : Url} (h : u.Settled) : readTail u.tail = (u.path, u.query, u.fragment) := by
  have inside : ∀ {sign : Char}, inPath sign = false → sign ≠ '/' → sign ∉ u.pathText := by
    intro sign outside other hmem
    rcases List.mem_cons.1 hmem with same | hmem
    · exact other same
    · rcases of_mem_intercalate hmem with same | ⟨s, hs, hc⟩
      · exact other same
      · rw [((h.path s hs).characters _ hc).1] at outside
        cases outside
  have noMark : '?' ∉ u.pathText := inside (by decide) (by decide)
  have noHash : '#' ∉ u.targetText := by
    intro hmem
    rcases List.mem_append.1 hmem with hmem | hmem
    · exact inside (by decide) (by decide) hmem
    · cases hq : u.query with
      | none =>
        rw [hq] at hmem
        cases hmem
      | some q =>
        rw [hq] at hmem
        rcases List.mem_cons.1 hmem with same | hmem
        · cases same
        · exact absurd (h.query q hq _ hmem) (by decide)
  have target : u.tail.takeWhile (· != '#') = u.targetText := takeWhile_part noHash u.fragment
  have path : u.targetText.takeWhile (· != '?') = u.pathText := takeWhile_part noMark u.query
  have afterTarget : u.tail.drop u.targetText.length = u.fragment.elim [] fun f => '#' :: f :=
    List.drop_left
  have afterPath : u.targetText.drop u.pathText.length = u.query.elim [] fun q => '?' :: q :=
    List.drop_left
  have parts : splitTail u.tail = (u.pathText, u.query, u.fragment) := by
    simp only [splitTail, target, path, afterTarget, afterPath]
    rw [read_part h.query, read_part h.fragment]
  rw [readTail, parts]
  dsimp only
  rw [pathText, List.drop_succ_cons, List.drop_zero, readPath_intercalate h.path_ne_nil h.path]

end Url

end CommitGate
