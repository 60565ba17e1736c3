import Mathlib.Logic.Function.Basic
import CommitGate.Authority.Client
import CommitGate.Proofs.Url.Tail

/-! # The question in a URL

Whoever asks gives a key and an address, and both go into the query. Nothing in them reaches another part of
the URL, and the authority reads from the query what was put there.

* `Client.Asks`: a URL puts a question to the authority at another URL;
* `Client.requestUrl_settled`: reading has nothing to change about the URL of a question;
* `Client.requestUrl_asks`: the URL of a question, part by part and as text. The endpoint stands below the
  base URL, unless the path of that is two slashes.
-/

namespace CommitGate.Authority.Client

/-! ## Paths -/

/-- A path without the empty segment at its end. The root is left without any segment. -/
def withoutLastEmpty (path : List (List Char)) : List (List Char) :=
  if path.getLast? = some [] then path.dropLast else path

/-- What stands below a path follows its segments. Of two slashes one is lost. -/
theorem below_eq {path : List (List Char)} (segments : List (List Char)) (h : path ≠ [[], []]) :
    below path segments = withoutLastEmpty path ++ segments := by
  unfold below dropSlash withoutLastEmpty
  by_cases last : path.getLast? = some []
  · obtain ⟨front, rfl⟩ := List.getLast?_eq_some_iff.1 last
    rw [if_pos last, List.dropLast_concat]
    cases front with
    | nil => rfl
    | cons first others =>
      have more : 1 < (first :: others ++ [[]]).length := by
        rw [List.length_append]
        exact Nat.lt_add_left_iff_pos.2 (Nat.zero_lt_succ _)
      have other : first :: others ≠ [[]] := by
        intro same
        rw [same] at h
        exact h rfl
      simp only [more, last]
      exact if_neg other
  · have other : path ≠ [[]] := by
      rintro rfl
      exact last rfl
    simp only [last, if_false, decide_false, Bool.and_false, Bool.false_eq_true]
    exact if_neg other

theorem mem_of_mem_below {path segments : List (List Char)} {s : List Char}
    (h : s ∈ below path segments) : s ∈ path ∨ s ∈ segments := by
  have kept : ∀ {s}, s ∈ dropSlash path → s ∈ path := by
    intro s hs
    unfold dropSlash at hs
    split at hs
    · exact (List.dropLast_sublist path).mem hs
    · exact hs
  unfold below at h
  split at h
  · exact Or.inr h
  · exact (List.mem_append.1 h).imp_left kept

/-! ## Settled URLs -/

/-- The base URL of a client has been read. -/
theorem settled_baseUrl {config : Config} {c : Client} (made : ofConfig config = .ok c) :
    c.baseUrl.Settled := by
  unfold ofConfig at made
  dsimp only at made
  split at made
  · split at made
    · cases made
    · obtain ⟨token, -, made⟩ := bind_eq_ok_iff.1 made
      split at made
      · rename_i baseUrl read
        cases made
        exact Url.settled_of_read read
      · cases made
      · cases made
  · cases made

/-- What an encoded form is made of may stand in a query. -/
theorem inQuery_of_mem_encode {pairs : List (String × String)} {c : Char}
    (h : c ∈ Form.encode pairs) : Url.inQuery c = true := by
  have encoded : Form.isEncoded c = true → Url.inQuery c = true := by
    intro hc
    have ascii : c.toNat < 0x80 := by
      simp only [Form.isEncoded, Bool.or_eq_true, decide_eq_true_eq] at hc
      rcases hc with (plain | rfl) | rfl
      · exact (Form.isPlain_bounds plain).1
      · decide
      · decide
    exact forall_ascii (p := fun c => Form.isEncoded c = true → Url.inQuery c = true) (by decide +kernel)
      c ascii hc
  rcases Form.isEncoded_of_mem_encode h with hc | rfl | rfl
  · exact encoded hc
  · decide
  · decide

theorem isSettled_of_mem_endpoint : ∀ s ∈ endpoint, Url.IsSettled s := by
  have computed : (endpoint.all fun s => !Url.isHere s && !Url.isAbove s &&
      s.all fun c => Url.inPath c && !Url.isSlash c) = true := by
    decide
  intro s hs
  have settled := List.all_eq_true.1 computed s hs
  simp only [Bool.and_eq_true, Bool.not_eq_true', List.all_eq_true] at settled
  obtain ⟨⟨notHere, notAbove⟩, characters⟩ := settled
  exact ⟨characters, notHere, notAbove⟩

/-- So reading has nothing to change about the URL of a question. -/
theorem requestUrl_settled {c : Client} (h : c.baseUrl.Settled) (keyId email : String) :
    (c.requestUrl keyId email).Settled where
  path_ne_nil := by
    have ne : endpoint ≠ [] := by decide
    simp only [requestUrl, below]
    split
    · exact ne
    · exact List.append_ne_nil_of_right_ne_nil _ ne
  path := fun s hs => (mem_of_mem_below hs).elim (h.path s) (isSettled_of_mem_endpoint s)
  query := by
    intro q hq c hc
    cases hq
    exact inQuery_of_mem_encode hc
  fragment := h.fragment

/-! ## Questions -/

/-- A URL puts a question to the authority at some other URL: it leads to the same machine in the same way and
in the name of the same user, and its query says what is asked and nothing else. -/
structure Asks (base u : Url) (keyId email : String) : Prop where
  scheme : u.scheme = base.scheme
  user : u.username = base.username ∧ u.password = base.password
  machine : u.host = base.host ∧ u.port = base.port
  question : ∃ q, u.query = some q ∧ Form.decode q = [("pgp_key_id", keyId), ("committer_email", email)]

theorem asks_requestUrl (c : Client) (keyId email : String) :
    Asks c.baseUrl (c.requestUrl keyId email) keyId email where
  scheme := rfl
  user := ⟨rfl, rfl⟩
  machine := ⟨rfl, rfl⟩
  question := ⟨_, rfl, Form.decode_encode _⟩

/-- A URL puts one question at most. -/
theorem Asks.unique {base base' u : Url} {keyId email keyId' email' : String}
    (h : Asks base u keyId email) (h' : Asks base' u keyId' email') :
    keyId = keyId' ∧ email = email' := by
  obtain ⟨q, hq, pairs⟩ := h.question
  obtain ⟨q', hq', pairs'⟩ := h'.question
  obtain rfl : q = q' := Option.some.inj (hq.symm.trans hq')
  have same : [("pgp_key_id", keyId), ("committer_email", email)] =
      [("pgp_key_id", keyId'), ("committer_email", email')] := pairs.symm.trans pairs'
  simpa using same

/-- The text of a question's URL begins as that of the base URL, and the rest of it is read as the parts that
were put there. -/
theorem text_requestUrl {c : Client} (h : c.baseUrl.Settled) (keyId email : String) :
    (c.requestUrl keyId email).text = c.baseUrl.front ++ (c.requestUrl keyId email).tail ∧
      Url.readTail (c.requestUrl keyId email).tail =
        ((c.requestUrl keyId email).path, (c.requestUrl keyId email).query,
          (c.requestUrl keyId email).fragment) :=
  ⟨Url.text_eq _, Url.readTail_tail (requestUrl_settled h keyId email)⟩

/-- Different questions have different URLs, also as texts. -/
theorem render_requestUrl_injective {c : Client} (h : c.baseUrl.Settled) :
    Function.Injective2 fun keyId email => (c.requestUrl keyId email).render := by
  intro keyId keyId' email email' same
  have texts : (c.requestUrl keyId email).text = (c.requestUrl keyId' email').text :=
    String.ofList_injective same
  obtain ⟨text, read⟩ := text_requestUrl h keyId email
  obtain ⟨text', read'⟩ := text_requestUrl h keyId' email'
  rw [text, text'] at texts
  rw [List.append_cancel_left texts, read'] at read
  -- one text is read once, so both questions are found in one query
  have query : (c.requestUrl keyId' email').query = (c.requestUrl keyId email).query :=
    congrArg (fun parts => parts.2.1) read
  have asked : Asks c.baseUrl (c.requestUrl keyId email) keyId' email' :=
    { asks_requestUrl c keyId email with
      question := query ▸ (asks_requestUrl c keyId' email').question }
  exact (asks_requestUrl c keyId email).unique asked

/-- The URL of a question, for every key and every address.

It leads to the authority's machine as the base URL does, with the two as its parameters. Its path is the
endpoint below the path of the base URL, exactly if that is not two slashes; below two slashes one is lost.
As a text it begins as the base URL does, and what follows is read as that path and those parameters. So
different questions have different URLs. -/
theorem requestUrl_asks {config : Config} {c : Client} (made : ofConfig config = .ok c) :
    (∀ keyId email,
      Asks c.baseUrl (c.requestUrl keyId email) keyId email ∧
      ((c.requestUrl keyId email).path = withoutLastEmpty c.baseUrl.path ++ endpoint ↔
        c.baseUrl.path ≠ [[], []]) ∧
      (c.baseUrl.path = [[], []] → (c.requestUrl keyId email).path = endpoint) ∧
      (c.requestUrl keyId email).text = c.baseUrl.front ++ (c.requestUrl keyId email).tail ∧
      Url.readTail (c.requestUrl keyId email).tail =
        ((c.requestUrl keyId email).path, (c.requestUrl keyId email).query,
          (c.requestUrl keyId email).fragment)) ∧
    Function.Injective2 fun keyId email => (c.requestUrl keyId email).render := by
  have settled : c.baseUrl.Settled := settled_baseUrl made
  refine ⟨fun keyId email => ?_, render_requestUrl_injective settled⟩
  have lost : c.baseUrl.path = [[], []] → (c.requestUrl keyId email).path = endpoint := by
    intro slashes
    rw [requestUrl, slashes]
    rfl
  have kept : (c.requestUrl keyId email).path = withoutLastEmpty c.baseUrl.path ++ endpoint ↔
      c.baseUrl.path ≠ [[], []] := by
    constructor
    · intro below slashes
      rw [lost slashes, slashes] at below
      exact absurd below (by decide)
    · intro other
      exact below_eq endpoint other
  exact ⟨asks_requestUrl c keyId email, kept, lost, text_requestUrl settled keyId email⟩

/-- Below a path that ends with a slash, and with another query. -/
theorem requestUrl_asks_below :
    ∃ c, ofConfig ⟨"http://[::1]/key-mgmt/?tenant=1#top", some "test-token", 30⟩ = .ok c ∧
      ∀ keyId email,
        Asks c.baseUrl (c.requestUrl keyId email) keyId email ∧
        (c.requestUrl keyId email).path = ["key-mgmt".toList] ++ endpoint := by
  have computed : (ofConfig ⟨"http://[::1]/key-mgmt/?tenant=1#top", some "test-token", 30⟩).toOption.any
      (fun c => c.baseUrl.path == ["key-mgmt".toList, []]) = true := by
    decide +kernel
  obtain ⟨c, made, path⟩ := any_toOption_iff.1 computed
  have path : c.baseUrl.path = ["key-mgmt".toList, []] := beq_iff_eq.1 path
  refine ⟨c, made, fun keyId email => ?_⟩
  obtain ⟨asks, below, -⟩ := (requestUrl_asks made).1 keyId email
  refine ⟨asks, ?_⟩
  rw [path] at below
  exact below.2 (by decide)

/-- Two slashes are a path with two empty segments, and dropping the last leaves one. The endpoint is not
below that: it stands at the root. -/
theorem requestUrl_asks_beside :
    ∃ c, ofConfig ⟨"http://[::1]//", some "test-token", 30⟩ = .ok c ∧
      withoutLastEmpty c.baseUrl.path = [[]] ∧
      (c.requestUrl "FC1B547C8D8172C8" "dev@example.com").path ≠
        withoutLastEmpty c.baseUrl.path ++ endpoint := by
  have computed : (ofConfig ⟨"http://[::1]//", some "test-token", 30⟩).toOption.any
      (fun c => c.baseUrl.path == [[], []]) = true := by
    decide +kernel
  obtain ⟨c, made, path⟩ := any_toOption_iff.1 computed
  have path : c.baseUrl.path = [[], []] := beq_iff_eq.1 path
  have beside : (c.requestUrl "FC1B547C8D8172C8" "dev@example.com").path = below [[], []] endpoint := by
    rw [requestUrl, path]
  refine ⟨c, made, ?_, ?_⟩
  · rw [path]
    rfl
  · rw [beside, path]
    decide

end CommitGate.Authority.Client
