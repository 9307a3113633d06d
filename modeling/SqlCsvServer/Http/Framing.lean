import SqlCsvServer.Http.HttpRequest

/-!
# How much of the stream a request takes
-/

namespace SqlCsvServer
namespace Http

open Foundation Common Engine

/-!
## The head
-/

/-- The first terminator of the stream ends behind its first `n` bytes. -/
structure HeadEnds (stream : Bytes) (n : Nat) : Prop where
  within : n ≤ stream.length
  ends : headEnd <:+ stream.take n
  first : forall m, m < n -> ¬ headEnd <:+ stream.take m

theorem HeadEnds.unique {stream : Bytes} {m n : Nat} (hm : HeadEnds stream m)
    (hn : HeadEnds stream n) : m = n := by
  rcases Nat.lt_trichotomy m n with hlt | rfl | hgt
  · exact absurd hm.ends (hn.first m hlt)
  · rfl
  · exact absurd hn.ends (hm.first n hgt)

theorem endsHead_iff (headerBuffer : Bytes) :
    (4 ≤ headerBuffer.length ∧
        headerBuffer.drop (headerBuffer.length - 4) = headEnd) <->
      headEnd <:+ headerBuffer := by
  rw [List.suffix_iff_eq_drop]
  constructor
  · exact fun h => h.2.symm
  · intro h
    refine ⟨?_, h.symm⟩
    have hlength := congrArg List.length h
    rw [List.length_drop] at hlength
    change 4 = _ - (_ - 4) at hlength
    omega

inductive HeadRead (stream : Bytes) (headerLimit : Nat) :
    ByteStream × HeadOutcome -> Prop where
  | complete {n : Nat} {socket : ByteStream} (hlimit : n ≤ headerLimit)
      (hends : HeadEnds stream n) (hrest : socket.bytes = stream.drop n) :
      HeadRead stream headerLimit (socket, .complete (stream.take n))
  | truncated {socket : ByteStream} (hshort : stream.length < headerLimit)
      (hnone : forall n, ¬ HeadEnds stream n) :
      HeadRead stream headerLimit (socket, .truncated)
  | tooLarge {socket : ByteStream} (hlong : headerLimit ≤ stream.length)
      (hnone : forall n, n ≤ headerLimit -> ¬ HeadEnds stream n) :
      HeadRead stream headerLimit (socket, .tooLarge)

theorem readHead_loop {room : Nat} {headerBuffer : Bytes} {socket : ByteStream}
    {stream : Bytes} (hstream : headerBuffer ++ socket.bytes = stream)
    (hnone : forall m, m ≤ headerBuffer.length -> ¬ headEnd <:+ stream.take m) :
    HeadRead stream (headerBuffer.length + room) (readHead room headerBuffer socket) := by
  induction room generalizing headerBuffer socket with
  | zero =>
      apply HeadRead.tooLarge
      · rw [← hstream, List.length_append]
        exact Nat.le_add_right _ _
      · exact fun n hn hends => hnone n hn hends.ends
  | succ room ih =>
      rcases hrecv : socket.recv 1 with ⟨received, left⟩
      cases hbytes : socket.bytes with
      | nil =>
          have hended := @ByteStream.recv_of_ended 1 socket hbytes
          rw [hrecv] at hended
          rcases hended with ⟨rfl, _⟩
          rw [readHead, hrecv]
          rw [hbytes, List.append_nil] at hstream
          apply HeadRead.truncated
          · rw [← hstream]
            omega
          · intro n hends
            exact hnone n (by rw [hstream]; exact hends.within) hends.ends
      | cons b rest =>
          have hone := @ByteStream.recv_one socket b rest hbytes
          rw [hrecv] at hone
          rcases hone with ⟨rfl, hleft⟩
          have hnext : (headerBuffer ++ [b]) ++ left.bytes = stream := by
            rw [hleft, List.append_assoc, List.singleton_append, ← hbytes, hstream]
          have htake : stream.take (headerBuffer.length + 1) = headerBuffer ++ [b] := by
            have hlength : headerBuffer.length + 1 = (headerBuffer ++ [b]).length := by
              rw [List.length_append, List.length_singleton]
            rw [← hnext, hlength, List.take_left]
          rw [readHead, hrecv]
          simp only [endsHead_iff]
          split
          · next hends =>
              rw [← htake]
              refine .complete (by omega) ⟨?_, ?_, ?_⟩ ?_
              · rw [← hnext, List.length_append, List.length_append, List.length_singleton]
                exact Nat.le_add_right _ _
              · rw [htake]
                exact hends
              · exact fun m hm => hnone m (Nat.le_of_lt_succ hm)
              · rw [← hnext, List.drop_left' (by rw [List.length_append,
                  List.length_singleton])]
          · next hopen =>
              have hmore := @ih (headerBuffer ++ [b]) left hnext ?_
              · rw [List.length_append, List.length_singleton] at hmore
                rwa [Nat.add_right_comm] at hmore
              · intro m hm
                rw [List.length_append, List.length_singleton] at hm
                rcases Nat.lt_or_eq_of_le hm with hlt | rfl
                · exact hnone m (Nat.le_of_lt_succ hlt)
                · rw [htake]
                  exact hopen

theorem readHead_read (socket : ByteStream) (headerLimit : Nat) :
    HeadRead socket.bytes headerLimit (readHead headerLimit [] socket) := by
  have hread := @readHead_loop headerLimit [] socket socket.bytes rfl (by
    intro m hm hends
    rw [List.length_nil, Nat.le_zero] at hm
    rw [hm, List.take_zero, List.suffix_nil] at hends
    cases hends)
  rwa [List.length_nil, Nat.zero_add] at hread

/-!
## The body
-/

theorem recvExact_loop {length fuel : Nat} {buffer : Bytes} {socket : ByteStream}
    {stream : Bytes} (hstream : buffer ++ socket.bytes = stream)
    (hlength : buffer.length ≤ length) (hfuel : length - buffer.length < fuel) :
    (length ≤ stream.length ->
        (recvExactLoop length fuel buffer socket).2 = some (stream.take length) ∧
          (recvExactLoop length fuel buffer socket).1.bytes = stream.drop length) ∧
      (stream.length < length ->
        (recvExactLoop length fuel buffer socket).2 = none ∧
          (recvExactLoop length fuel buffer socket).1.bytes = []) := by
  induction fuel generalizing buffer socket with
  | zero => omega
  | succ fuel ih =>
      rcases Nat.lt_or_eq_of_le hlength with hless | rfl
      · rcases hrecv : socket.recv (length - buffer.length) with ⟨received, left⟩
        have hwhole := @ByteStream.recv_bytes (length - buffer.length) socket
        have hreceived := @ByteStream.recv_length_le (length - buffer.length) socket
        rw [hrecv] at hwhole hreceived
        cases received with
        | nil =>
            have hended : socket.bytes = [] := by
              apply Classical.byContradiction
              intro hne
              have hsome := @ByteStream.recv_ne_nil (length - buffer.length) socket
                (Nat.sub_pos_of_lt hless) hne
              rw [hrecv] at hsome
              exact hsome rfl
            rw [hended, List.append_nil] at hstream
            simp only [recvExactLoop, hless, if_true, hrecv]
            constructor
            · intro hlong
              rw [← hstream] at hlong
              omega
            · intro _
              refine ⟨trivial, ?_⟩
              rw [hended, List.nil_append] at hwhole
              exact hwhole
        | cons b received =>
            have hloop : recvExactLoop length (fuel + 1) buffer socket =
                recvExactLoop length fuel (buffer ++ b :: received) left := by
              simp only [recvExactLoop, hless, if_true, hrecv]
            rw [hloop]
            have hlengths : (buffer ++ b :: received).length =
                buffer.length + (b :: received).length := List.length_append
            rw [List.length_cons] at hlengths hreceived
            apply ih
            · rw [List.append_assoc, hwhole, hstream]
            · omega
            · omega
      · simp only [recvExactLoop, Nat.lt_irrefl, if_false]
        rw [← hstream]
        constructor
        · intro _
          exact ⟨by rw [List.take_left], by rw [List.drop_left]⟩
        · intro hshort
          rw [List.length_append] at hshort
          omega

theorem recvExact_outcome (socket : ByteStream) (length : Nat) :
    (length ≤ socket.bytes.length ->
        (recvExact socket length).2 = some (socket.bytes.take length) ∧
          (recvExact socket length).1.bytes = socket.bytes.drop length) ∧
      (socket.bytes.length < length ->
        (recvExact socket length).2 = none ∧ (recvExact socket length).1.bytes = []) :=
  recvExact_loop (List.nil_append _) (Nat.zero_le _) (Nat.lt_succ_of_le (Nat.sub_le _ _))

/-!
## The errors behind the head
-/

theorem readHeaders_error {fuel : Nat} {cursor : Bytes} {headers : List HttpHeader}
    {error : ReadError} (h : readHeaders fuel cursor headers = .error error) :
    error.1 = .invalidContentLength := by
  induction fuel generalizing cursor headers with
  | zero => cases h
  | succ fuel ih =>
      cases cursor with
      | nil => cases h
      | cons b rest =>
          rw [readHeaders] at h
          split at h
          · cases h
          · split at h
            · cases h
              rfl
            · split at h
              · cases h
              · split at h
                · cases h
                  rfl
                · split at h
                  · cases h
                    rfl
                  · exact ih h

theorem parseHead_error {headerBuffer : Bytes} {error : ReadError}
    (h : parseHead headerBuffer = .error error) : error.1 = .invalidContentLength := by
  unfold parseHead at h
  split at h
  · cases h
    rfl
  · split at h
    · next hline =>
        unfold parseRequestLine at hline
        split at hline
        · cases hline
          cases h
          rfl
        · split at hline
          · cases hline
          · cases hline
            cases h
            rfl
    · split at h
      · next hheaders =>
          cases h
          exact readHeaders_error hheaders
      · cases h

theorem parseHead_bodyLength {headerBuffer : Bytes} {request : HttpRequest}
    (h : parseHead headerBuffer = .ok request) :
    request.body = [] ∧ request.bodyLength = 0 := by
  unfold parseHead at h
  split at h
  · cases h
  · split at h
    · cases h
    · next hline =>
        split at h
        · cases h
        · cases h
          unfold parseRequestLine at hline
          split at hline
          · cases hline
          · split at hline
            · cases hline
              exact ⟨rfl, rfl⟩
            · cases hline

theorem requestContentLength_error {request : HttpRequest} {error : ReadError}
    (h : requestContentLength request = .error error) :
    error.1 = .invalidContentLength := by
  unfold requestContentLength at h
  split at h
  · cases h
  · split at h
    · cases h
      rfl
    · split at h
      · cases h
        rfl
      · cases h

theorem readBody_error {bodyLimit : Nat} {contentLength : Int} {request : HttpRequest}
    {socket : ByteStream} {error : ReadError}
    (h : (readBody bodyLimit contentLength request socket).2 = .error error) :
    error.1 = .payloadTooLarge ∨ error.1 = .invalidContentLength := by
  unfold readBody at h
  split at h
  · split at h
    · cases h
      exact .inl rfl
    · split at h
      · cases h
        exact .inr rfl
      · cases h
  · cases h

theorem readBehindHead_error {bodyLimit : Nat} {headerBuffer : Bytes}
    {socket : ByteStream} {error : ReadError}
    (h : (readBehindHead bodyLimit headerBuffer socket).2 = .error error) :
    error.1 ≠ .headerTooLarge := by
  unfold readBehindHead at h
  split at h
  · next hhead =>
      cases h
      rw [parseHead_error hhead]
      exact nofun
  · split at h
    · cases h
      exact nofun
    · split at h
      · next hlength =>
          cases h
          rw [requestContentLength_error hlength]
          exact nofun
      · rcases readBody_error h with hcode | hcode
        · rw [hcode]
          exact nofun
        · rw [hcode]
          exact nofun

/-!
## What an accepted request has taken
-/

/-- The request has taken its body from the stream, and nothing behind it. -/
structure BodyTaken (bodyLimit : Nat) (stream : Bytes) (request : HttpRequest)
    (rest : ByteStream) : Prop where
  limit : request.bodyLength ≤ bodyLimit
  within : request.bodyLength ≤ stream.length
  body : request.body = stream.take request.bodyLength
  rest : rest.bytes = stream.drop request.bodyLength

theorem readBody_ok {bodyLimit : Nat} {contentLength : Int}
    {request result : HttpRequest} {socket : ByteStream}
    (hbody : request.body = []) (hbodyLength : request.bodyLength = 0)
    (h : (readBody bodyLimit contentLength request socket).2 = .ok result) :
    BodyTaken bodyLimit socket.bytes result
      (readBody bodyLimit contentLength request socket).1 := by
  unfold readBody at h ⊢
  split at h
  · next hpositive =>
      split at h
      · cases h
      · next hlimit =>
          simp only [hpositive, hlimit, if_true, if_false]
          rcases recvExact_outcome socket contentLength.toNat with ⟨hlong, hshort⟩
          rcases hreceived : recvExact socket contentLength.toNat with ⟨left, outcome⟩
          rw [hreceived] at h hlong hshort
          rcases Nat.lt_or_ge socket.bytes.length contentLength.toNat with hless | hmore
          · rcases hshort hless with ⟨rfl, _⟩
            cases h
          · rcases hlong hmore with ⟨rfl, hleft⟩
            cases h
            exact ⟨Nat.not_lt.mp hlimit, hmore, rfl, hleft⟩
  · next hnone =>
      simp only [hnone, if_false]
      cases h
      constructor
      · rw [hbodyLength]
        exact Nat.zero_le _
      · rw [hbodyLength]
        exact Nat.zero_le _
      · rw [hbodyLength, hbody, List.take_zero]
      · rw [hbodyLength, List.drop_zero]

theorem readBehindHead_ok {bodyLimit : Nat} {headerBuffer : Bytes}
    {socket : ByteStream} {request : HttpRequest}
    (h : (readBehindHead bodyLimit headerBuffer socket).2 = .ok request) :
    BodyTaken bodyLimit socket.bytes request
      (readBehindHead bodyLimit headerBuffer socket).1 := by
  unfold readBehindHead at h ⊢
  cases hhead : parseHead headerBuffer with
  | error error =>
      rw [hhead] at h
      cases h
  | ok parsed =>
      rcases parseHead_bodyLength hhead with ⟨hbody, hbodyLength⟩
      rw [hhead] at h
      simp only at h ⊢
      split at h
      · cases h
      · next hchunked =>
          simp only [hchunked]
          cases hlength : requestContentLength parsed with
          | error error =>
              rw [hlength] at h
              cases h
          | ok contentLength =>
              rw [hlength] at h
              exact readBody_ok hbody hbodyLength h

/-- Which bytes of the stream `http_read_request` reads, and what it answers. -/
theorem http_read_request_framing (socket : ByteStream) (headerLimit bodyLimit : Nat) :
    ((exists text, (httpReadRequest socket headerLimit bodyLimit).2 =
          .error (.headerTooLarge, text)) <->
        headerLimit ≤ socket.bytes.length ∧
          forall n, n ≤ headerLimit -> ¬ HeadEnds socket.bytes n) ∧
      (socket.bytes.length < headerLimit -> (forall n, ¬ HeadEnds socket.bytes n) ->
        (httpReadRequest socket headerLimit bodyLimit).2 =
          .error (.invalidContentLength, ascii "truncated HTTP request")) ∧
      (forall n, n ≤ headerLimit -> HeadEnds socket.bytes n ->
        exists behind : ByteStream, behind.bytes = socket.bytes.drop n ∧
          readHead headerLimit [] socket =
            (behind, .complete (socket.bytes.take n)) ∧
          httpReadRequest socket headerLimit bodyLimit =
            readBehindHead bodyLimit (socket.bytes.take n) behind) ∧
      forall request,
        (httpReadRequest socket headerLimit bodyLimit).2 = .ok request ->
          exists n, n ≤ headerLimit ∧ HeadEnds socket.bytes n ∧
            BodyTaken bodyLimit (socket.bytes.drop n) request
              (httpReadRequest socket headerLimit bodyLimit).1 := by
  have hread := readHead_read socket headerLimit
  generalize houtcome : readHead headerLimit [] socket = outcome at hread
  cases hread with
  | @complete n behind hlimit hends hrest =>
      have hwhole : httpReadRequest socket headerLimit bodyLimit =
          readBehindHead bodyLimit (socket.bytes.take n) behind := by
        unfold httpReadRequest
        rw [houtcome]
      rw [hwhole]
      refine ⟨⟨?_, ?_⟩, ?_, ?_, ?_⟩
      · rintro ⟨text, herror⟩
        exact absurd rfl (readBehindHead_error herror)
      · exact fun hnone => absurd hends (hnone.2 n hlimit)
      · exact fun _ hnone => absurd hends (hnone n)
      · intro m _ hm
        rw [hm.unique hends]
        exact ⟨behind, hrest, rfl, rfl⟩
      · intro request hok
        have htaken := readBehindHead_ok hok
        rw [hrest] at htaken
        exact ⟨n, hlimit, hends, htaken⟩
  | @truncated behind hshort hnone =>
      have hwhole : (httpReadRequest socket headerLimit bodyLimit).2 =
          .error (.invalidContentLength, ascii "truncated HTTP request") := by
        unfold httpReadRequest
        rw [houtcome]
      rw [hwhole]
      refine ⟨⟨?_, ?_⟩, ?_, ?_, ?_⟩
      · rintro ⟨text, herror⟩
        cases herror
      · exact fun hlong => absurd hlong.1 (Nat.not_le.mpr hshort)
      · exact fun _ _ => rfl
      · exact fun n _ hends => absurd hends (hnone n)
      · exact fun _ hok => nomatch hok
  | @tooLarge behind hlong hnone =>
      have hwhole : (httpReadRequest socket headerLimit bodyLimit).2 =
          .error (.headerTooLarge,
            ascii "HTTP headers exceed configured size limit") := by
        unfold httpReadRequest
        rw [houtcome]
      rw [hwhole]
      refine ⟨⟨?_, ?_⟩, ?_, ?_, ?_⟩
      · exact fun _ => ⟨hlong, hnone⟩
      · exact fun _ => ⟨_, rfl⟩
      · exact fun hshort => absurd hlong (Nat.not_le.mpr hshort)
      · exact fun n hn hends => absurd hends (hnone n hn)
      · exact fun _ hok => nomatch hok

end Http
end SqlCsvServer
