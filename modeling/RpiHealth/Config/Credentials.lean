import RpiHealth.Config.Config

/-! The credential file at its limits: which contents give which password. -/
namespace RpiHealth

/-- The contents without one final CRLF, or else without one final LF. -/
def withoutLineEnding (contents : List UInt8) : List UInt8 :=
  if [13, 10] <:+ contents then contents.take (contents.length - 2)
  else if [10] <:+ contents then contents.take (contents.length - 1)
  else contents

/-- What a file of these bytes must satisfy to hold the password. -/
structure Holds (contents : ByteArray) (password : String) : Prop where
  encoded : contents.IsValidUTF8
  size : contents.size ≤ 65536
  stripped : password.toUTF8.data.toList = withoutLineEnding contents.data.toList
  nonempty : 1 ≤ Text.size password
  length : Text.size password ≤ 65535

theorem stripLineEnding_crlf (front : List Char) :
    stripLineEnding (String.ofList (front ++ ['\r', '\n'])) = String.ofList front := by
  simp [stripLineEnding]

theorem stripLineEnding_lf (front : List Char) (bare : ¬ ['\r'] <:+ front) :
    stripLineEnding (String.ofList (front ++ ['\n'])) = String.ofList front := by
  unfold stripLineEnding
  rw [String.toList_ofList, List.reverse_append, List.reverse_singleton, List.singleton_append]
  split
  · rename_i rest reversed
    refine absurd ⟨rest.reverse, ?_⟩ bare
    rw [← List.reverse_cons, ← (List.cons.inj reversed).2, List.reverse_reverse]
  · rename_i rest _ reversed
    rw [← (List.cons.inj reversed).2, List.reverse_reverse]
  · rename_i other
    exact absurd rfl (other _)

theorem stripLineEnding_none (cs : List Char) (unterminated : ¬ ['\n'] <:+ cs) :
    stripLineEnding (String.ofList cs) = String.ofList cs := by
  have last : ∀ rest, cs.reverse ≠ '\n' :: rest := by
    intro rest reversed
    refine unterminated ⟨rest.reverse, ?_⟩
    rw [← List.reverse_cons, ← reversed, List.reverse_reverse]
  unfold stripLineEnding
  rw [String.toList_ofList]
  split
  · rename_i reversed
    exact absurd reversed (last _)
  · rename_i reversed
    exact absurd reversed (last _)
  · rfl

theorem withoutLineEnding_crlf (front : List UInt8) :
    withoutLineEnding (front ++ [13, 10]) = front := by
  rw [withoutLineEnding, if_pos (List.suffix_append front [13, 10])]
  simp

theorem withoutLineEnding_lf (front : List UInt8) (bare : ¬ [13] <:+ front) :
    withoutLineEnding (front ++ [10]) = front := by
  have pair : ¬ [13, 10] <:+ front ++ [10] := by
    intro ends
    have split : [13] ++ [10] <:+ front ++ [10] := ends
    exact bare ((List.suffix_append_inj_of_length_eq rfl).mp split).1
  rw [withoutLineEnding, if_neg pair, if_pos (List.suffix_append front [10])]
  simp

theorem withoutLineEnding_none (contents : List UInt8) (unterminated : ¬ [10] <:+ contents) :
    withoutLineEnding contents = contents := by
  have pair : ¬ [13, 10] <:+ contents := fun ends =>
    unterminated ((List.suffix_append [13] [10]).trans ends)
  rw [withoutLineEnding, if_neg pair, if_neg unterminated]

/-- The loader strips characters; the file loses the bytes of the same line ending. -/
theorem stripLineEnding_bytes (text : String) :
    (stripLineEnding text).toUTF8.data.toList = withoutLineEnding text.toUTF8.data.toList := by
  obtain ⟨cs, rfl⟩ := text.exists_eq_ofList
  have newline : String.utf8EncodeChar '\n' = [10] := by decide
  have carriage : String.utf8EncodeChar '\r' = [13] := by decide
  rw [Text.bytes_ofList]
  by_cases terminated : ['\n'] <:+ cs
  · obtain ⟨front, rfl⟩ := terminated
    by_cases pair : ['\r'] <:+ front
    · obtain ⟨front, rfl⟩ := pair
      rw [List.append_assoc, List.singleton_append, stripLineEnding_crlf, Text.bytes_ofList,
        List.flatMap_append, List.flatMap_cons, List.flatMap_singleton, newline, carriage,
        List.singleton_append, withoutLineEnding_crlf]
    · have bare : ¬ [13] <:+ front.flatMap String.utf8EncodeChar := fun ends =>
        pair ((Text.ends_ascii front '\r' (by decide)).mp ends)
      rw [stripLineEnding_lf front pair, Text.bytes_ofList, List.flatMap_append,
        List.flatMap_singleton, newline, withoutLineEnding_lf _ bare]
  · have open_end : ¬ [10] <:+ cs.flatMap String.utf8EncodeChar := fun ends =>
      terminated ((Text.ends_ascii cs '\n' (by decide)).mp ends)
    rw [stripLineEnding_none cs terminated, Text.bytes_ofList, withoutLineEnding_none _ open_end]

theorem decode_valid (contents : ByteArray) (encoded : contents.IsValidUTF8) :
    ∃ text, String.fromUTF8? contents = some text ∧ text.toUTF8 = contents := by
  refine ⟨String.fromUTF8 contents encoded, ?_, rfl⟩
  unfold String.fromUTF8?
  rw [dif_pos encoded]

/-- The loader on a readable regular file that others cannot read. The size of the file
is checked before the line ending goes, the length of the password after it. -/
theorem load_readable (config : MqttConfig) (metadata : Metadata) (contents : ByteArray)
    (regular : metadata.isFile = true) (permitted : metadata.mode &&& 0o027 = 0)
    (credentials : MqttCredentials) :
    MqttCredentials.load config ⟨.ok metadata, .ok contents⟩ = .ok credentials ↔
      metadata.length ≤ MAX_PASSWORD_BYTES ∧ ∃ text, String.fromUTF8? contents = some text ∧
        stripLineEnding text ≠ "" ∧ Text.size (stripLineEnding text) ≤ 65535 ∧
        credentials = ⟨config.username, stripLineEnding text⟩ := by
  simp only [MqttCredentials.load, Except.mapError, regular, validateSecretPermissions, permitted,
    bind, Except.bind, pure, Except.pure]
  by_cases large : MAX_PASSWORD_BYTES < metadata.length
  · simp [large, throw, throwThe, MonadExceptOf.throw]
  · cases decoded : String.fromUTF8? contents with
    | none => simp [large, throw, throwThe, MonadExceptOf.throw]
    | some text =>
      by_cases empty : stripLineEnding text = ""
      · simp [large, empty, throw, throwThe, MonadExceptOf.throw]
      · by_cases long : 65535 < Text.size (stripLineEnding text)
        · simp [large, empty, long, throw, throwThe, MonadExceptOf.throw]
        · have small : metadata.length ≤ MAX_PASSWORD_BYTES := by omega
          have fits : Text.size (stripLineEnding text) ≤ 65535 := by omega
          simp [large, empty, long, small, fits]
          exact eq_comm

theorem size_eq_zero_iff (s : String) : Text.size s = 0 ↔ s = "" :=
  String.utf8ByteSize_eq_zero_iff

theorem load_iff_holds (config : MqttConfig) (metadata : Metadata) (contents : ByteArray)
    (regular : metadata.isFile = true) (permitted : metadata.mode &&& 0o027 = 0)
    (unchanged : metadata.length = contents.size) (password : String) :
    MqttCredentials.load config ⟨.ok metadata, .ok contents⟩ = .ok ⟨config.username, password⟩ ↔
      Holds contents password := by
  rw [load_readable config metadata contents regular permitted, unchanged]
  constructor
  · rintro ⟨size, text, decoded, nonempty, length, same⟩
    obtain rfl : password = stripLineEnding text := congrArg MqttCredentials.password same
    have encoded : contents.IsValidUTF8 := by
      by_contra invalid
      rw [String.fromUTF8?, dif_neg invalid] at decoded
      cases decoded
    obtain ⟨found, again, bytes⟩ := decode_valid contents encoded
    obtain rfl : text = found := Option.some.inj (decoded.symm.trans again)
    refine ⟨encoded, size, ?_, ?_, length⟩
    · rw [stripLineEnding_bytes, bytes]
    · exact Nat.pos_of_ne_zero (mt (size_eq_zero_iff _).mp nonempty)
  · intro holds
    obtain ⟨text, decoded, bytes⟩ := decode_valid contents holds.encoded
    have same : password = stripLineEnding text := by
      have stripped := holds.stripped
      rw [← bytes, ← stripLineEnding_bytes] at stripped
      exact String.toByteArray_inj.mp (ByteArray.ext (Array.toList_inj.mp stripped))
    refine ⟨holds.size, text, decoded, ?_, same ▸ holds.length, by rw [same]⟩
    rw [← same]
    exact mt (size_eq_zero_iff _).mpr (Nat.pos_iff_ne_zero.mp holds.nonempty)

/-- One LF behind a password that ends in no CR is the line ending that goes. -/
theorem holds_terminated (password : String) (nonempty : 1 ≤ Text.size password)
    (length : Text.size password ≤ 65535) (bare : Text.endsWith '\r' password = false) :
    Holds (password ++ "\n").toUTF8 password := by
  have feed : Text.size "\n" = 1 := by decide
  have size : (password ++ "\n").toUTF8.size = Text.size password + 1 := by
    rw [← feed, ← Text.size_append]
    rfl
  refine ⟨(password ++ "\n").isValidUTF8, by omega, ?_, nonempty, length⟩
  obtain ⟨cs, rfl⟩ := password.exists_eq_ofList
  have open_end : ¬ ['\r'] <:+ cs := by
    intro ends
    rw [List.singleton_suffix_iff_getLast?_eq_some] at ends
    simp [Text.endsWith, ends] at bare
  have joined : String.ofList cs ++ "\n" = String.ofList (cs ++ ['\n']) := by
    rw [String.ofList_append]
  rw [joined, ← stripLineEnding_bytes, stripLineEnding_lf cs open_end]

/-- The loader returns the password that the file holds, and an error where it holds none. -/
theorem credential_loading_exact (config : MqttConfig) (metadata : Metadata)
    (contents : ByteArray) (regular : metadata.isFile = true)
    (permitted : metadata.mode &&& 0o027 = 0) (unchanged : metadata.length = contents.size) :
    (∀ password, MqttCredentials.load config ⟨.ok metadata, .ok contents⟩ =
      .ok ⟨config.username, password⟩ ↔ Holds contents password) ∧
    ((∀ password, ¬ Holds contents password) →
      ∃ error, MqttCredentials.load config ⟨.ok metadata, .ok contents⟩ = .error error) ∧
    (∀ password, contents = (password ++ "\n").toUTF8 → 1 ≤ Text.size password →
      Text.size password ≤ 65535 → Text.endsWith '\r' password = false →
      MqttCredentials.load config ⟨.ok metadata, .ok contents⟩ =
        .ok ⟨config.username, password⟩) := by
  have exact_contents := load_iff_holds config metadata contents regular permitted unchanged
  refine ⟨exact_contents, ?_, ?_⟩
  · intro none_held
    cases loaded : MqttCredentials.load config ⟨.ok metadata, .ok contents⟩ with
    | error error => exact ⟨error, rfl⟩
    | ok credentials =>
      obtain ⟨-, text, -, -, -, rfl⟩ :=
        (load_readable config metadata contents regular permitted credentials).mp loaded
      exact absurd ((exact_contents _).mp loaded) (none_held _)
  · rintro password rfl nonempty length bare
    exact (exact_contents password).mpr (holds_terminated password nonempty length bare)

def sampleMqtt : MqttConfig where
  host := defaultHost
  port := ⟨defaultPort, by decide⟩
  clientId := "rpi-health-pi"
  username := "rpi-health"
  passwordFile := "/etc/rpi-health-mqtt/mqtt-password"
  baseTopic := "rpi-health/pi-4"
  discoveryPrefix := defaultDiscoveryPrefix
  keepAlive := defaultKeepAlive

theorem credential_loading_exact_sample :
    MqttCredentials.load sampleMqtt ⟨.ok ⟨true, 9, 0o640⟩, .ok " s3cret \n".toUTF8⟩ =
      .ok ⟨"rpi-health", " s3cret "⟩ :=
  (credential_loading_exact sampleMqtt ⟨true, 9, 0o640⟩ " s3cret \n".toUTF8 rfl (by decide)
    (by decide)).2.2 " s3cret " rfl (by decide) (by decide) (by decide)

end RpiHealth
