import SchemaRouting.Config.Reading
import SchemaRouting.Proofs.Json.Records

/-!
# What a document says of a configuration

A document names settings of a server and of its logging, none of them twice. A setting that it
names has the value that is written there, and every other has its standard value (`Says`,
`says_of_ofText`). So a document says one thing, whatever was loaded before it (`Says.unique`).
-/

set_option autoImplicit false
set_option relaxedAutoImplicit false

namespace SchemaRouting.Config

open SchemaRouting.Tree (HasValue Reads)

variable {seen seen' : List String} {key : String} {t : Tree}

/-! ### The settings of a server -/

section Server

variable {s s' : Server}

theorem readServerMember_cases (h : readServerMember (seen, s) key t = .ok (seen', s')) :
    (key ∉ seen ∧ seen' = key :: seen) ∧
      ((key = "service_name" ∧ ∃ v, t.readString = .ok v ∧ s' = { s with serviceName := v }) ∨
        (key = "schemas" ∧ ∃ v, t.readStrings = .ok v ∧ s' = { s with schemas := v }) ∨
        (key = "schema_file" ∧ ∃ v, t.readOptional Tree.readString = .ok v ∧
          s' = { s with schemaFile := v })) := by
  obtain ⟨hkey, hnew, h⟩ := Tree.take_eq_ok_iff.mp h
  split at h <;> obtain ⟨next, hnext, h⟩ := bind_eq_ok_iff.mp h <;> cases h <;>
    obtain ⟨v, hv, rfl⟩ := map_eq_ok_iff.mp hnext <;> refine ⟨⟨hnew, rfl⟩, ?_⟩
  · exact .inl ⟨rfl, v, hv, rfl⟩
  · exact .inr (.inl ⟨rfl, v, hv, rfl⟩)
  · have hlast : key = "schema_file" := by simp_all [serverKeys]
    exact .inr (.inr ⟨hlast, v, hv, rfl⟩)

/-- What a section, if there is one, says of a server. -/
structure Server.Says (t : Option Tree) (s : Server) : Prop where
  serviceName : HasValue Tree.readString Server.standard.serviceName s.serviceName
    (t.bind (·.field? serverKeys "service_name"))
  schemas : HasValue Tree.readStrings Server.standard.schemas s.schemas
    (t.bind (·.field? serverKeys "schemas"))
  schemaFile : HasValue (Tree.readOptional Tree.readString) Server.standard.schemaFile s.schemaFile
    (t.bind (·.field? serverKeys "schema_file"))

theorem Server.says_none : Server.standard.Says none := ⟨rfl, rfl, rfl⟩

theorem says_of_readServer (h : readServer t = .ok s) : s.Says (some t) := by
  obtain ⟨⟨seen, s⟩, hrecord, rfl⟩ := map_eq_ok_iff.mp h
  constructor <;>
    refine Reads.hasValue ⟨fun h ↦ (readServerMember_cases h).1, fun h ↦ ?_⟩ hrecord <;>
    rcases (readServerMember_cases h).2 with
      ⟨rfl, v, hv, rfl⟩ | ⟨rfl, v, hv, rfl⟩ | ⟨rfl, v, hv, rfl⟩ <;> simp [hv]

end Server

/-! ### The settings of its logging -/

section Logging

variable {l l' : Logging}

theorem readLoggingMember_cases (h : readLoggingMember (seen, l) key t = .ok (seen', l')) :
    (key ∉ seen ∧ seen' = key :: seen) ∧
      ((key = "enabled" ∧ ∃ v, t.readBool = .ok v ∧ l' = { l with enabled := v }) ∨
        (key = "level" ∧ ∃ v, t.readString = .ok v ∧ l' = { l with level := v }) ∨
        (key = "format" ∧ ∃ v, t.readNamed LogFormat.ofName? = .ok v ∧
          l' = { l with format := v }) ∨
        (key = "include_location" ∧ ∃ v, t.readBool = .ok v ∧
          l' = { l with includeLocation := v }) ∨
        (key = "thread_ids" ∧ ∃ v, t.readBool = .ok v ∧ l' = { l with threadIds := v })) := by
  obtain ⟨hkey, hnew, h⟩ := Tree.take_eq_ok_iff.mp h
  split at h <;> obtain ⟨next, hnext, h⟩ := bind_eq_ok_iff.mp h <;> cases h <;>
    obtain ⟨v, hv, rfl⟩ := map_eq_ok_iff.mp hnext <;> refine ⟨⟨hnew, rfl⟩, ?_⟩
  · exact .inl ⟨rfl, v, hv, rfl⟩
  · exact .inr (.inl ⟨rfl, v, hv, rfl⟩)
  · exact .inr (.inr (.inl ⟨rfl, v, hv, rfl⟩))
  · exact .inr (.inr (.inr (.inl ⟨rfl, v, hv, rfl⟩)))
  · have hlast : key = "thread_ids" := by simp_all [loggingKeys]
    exact .inr (.inr (.inr (.inr ⟨hlast, v, hv, rfl⟩)))

/-- What a section, if there is one, says of logging. -/
structure Logging.Says (t : Option Tree) (l : Logging) : Prop where
  enabled : HasValue Tree.readBool Logging.standard.enabled l.enabled
    (t.bind (·.field? loggingKeys "enabled"))
  level : HasValue Tree.readString Logging.standard.level l.level
    (t.bind (·.field? loggingKeys "level"))
  format : HasValue (Tree.readNamed LogFormat.ofName?) Logging.standard.format l.format
    (t.bind (·.field? loggingKeys "format"))
  includeLocation : HasValue Tree.readBool Logging.standard.includeLocation l.includeLocation
    (t.bind (·.field? loggingKeys "include_location"))
  threadIds : HasValue Tree.readBool Logging.standard.threadIds l.threadIds
    (t.bind (·.field? loggingKeys "thread_ids"))

theorem Logging.says_none : Logging.standard.Says none := ⟨rfl, rfl, rfl, rfl, rfl⟩

theorem says_of_readLogging (h : readLogging t = .ok l) : l.Says (some t) := by
  obtain ⟨⟨seen, l⟩, hrecord, rfl⟩ := map_eq_ok_iff.mp h
  constructor <;>
    refine Reads.hasValue ⟨fun h ↦ (readLoggingMember_cases h).1, fun h ↦ ?_⟩ hrecord <;>
    rcases (readLoggingMember_cases h).2 with ⟨rfl, v, hv, rfl⟩ | ⟨rfl, v, hv, rfl⟩ |
      ⟨rfl, v, hv, rfl⟩ | ⟨rfl, v, hv, rfl⟩ | ⟨rfl, v, hv, rfl⟩ <;> simp [hv]

end Logging

/-! ### The two sections -/

section Sections

variable {c c' : Config}

theorem readMember_cases (h : readMember (seen, c) key t = .ok (seen', c')) :
    (key ∉ seen ∧ seen' = key :: seen) ∧
      ((key = "server" ∧ ∃ v, readServer t = .ok v ∧ c' = { c with server := v }) ∨
        (key = "logging" ∧ ∃ v, readLogging t = .ok v ∧ c' = { c with logging := v })) := by
  obtain ⟨hkey, hnew, h⟩ := Tree.take_eq_ok_iff.mp h
  split at h <;> obtain ⟨next, hnext, h⟩ := bind_eq_ok_iff.mp h <;> cases h <;>
    obtain ⟨v, hv, rfl⟩ := map_eq_ok_iff.mp hnext <;> refine ⟨⟨hnew, rfl⟩, ?_⟩
  · exact .inl ⟨rfl, v, hv, rfl⟩
  · have hlast : key = "logging" := by simp_all [sectionKeys]
    exact .inr ⟨hlast, v, hv, rfl⟩

/-- What a document says of all eight settings. -/
structure Says (t : Tree) (c : Config) : Prop where
  server : c.server.Says (t.field? sectionKeys "server")
  logging : c.logging.Says (t.field? sectionKeys "logging")

theorem Says.unique (h : Says t c) (h' : Says t c') : c' = c := by
  obtain ⟨⟨serviceName, schemas, schemaFile⟩, ⟨enabled, level, format, location, threadIds⟩⟩ := c'
  cases h.server.serviceName.unique h'.server.serviceName
  cases h.server.schemas.unique h'.server.schemas
  cases h.server.schemaFile.unique h'.server.schemaFile
  cases h.logging.enabled.unique h'.logging.enabled
  cases h.logging.level.unique h'.logging.level
  cases h.logging.format.unique h'.logging.format
  cases h.logging.includeLocation.unique h'.logging.includeLocation
  cases h.logging.threadIds.unique h'.logging.threadIds
  rfl

theorem says_of_read (h : read t = .ok c) : Says t c := by
  obtain ⟨⟨seen, c⟩, hrecord, rfl⟩ := map_eq_ok_iff.mp h
  have hserver : HasValue readServer .standard c.server (t.field? sectionKeys "server") := by
    refine Reads.hasValue ⟨fun h ↦ (readMember_cases h).1, fun h ↦ ?_⟩ hrecord
    rcases (readMember_cases h).2 with ⟨rfl, v, hv, rfl⟩ | ⟨rfl, v, hv, rfl⟩ <;> simp [hv]
  have hlogging : HasValue readLogging .standard c.logging (t.field? sectionKeys "logging") := by
    refine Reads.hasValue ⟨fun h ↦ (readMember_cases h).1, fun h ↦ ?_⟩ hrecord
    rcases (readMember_cases h).2 with ⟨rfl, v, hv, rfl⟩ | ⟨rfl, v, hv, rfl⟩ <;> simp [hv]
  constructor
  · cases hsection : t.field? sectionKeys "server" with
    | none =>
      rw [hsection] at hserver
      exact hserver ▸ Server.says_none
    | some s =>
      rw [hsection] at hserver
      exact says_of_readServer hserver
  · cases hsection : t.field? sectionKeys "logging" with
    | none =>
      rw [hsection] at hlogging
      exact hlogging ▸ Logging.says_none
    | some l =>
      rw [hsection] at hlogging
      exact says_of_readLogging hlogging

theorem says_of_ofText {format : Schema.Format} {content : String}
    (h : ofText format content = .ok c) : ∃ t, format.tree? content = some t ∧ Says t c := by
  have hread : format.readText read content = .ok c := by
    unfold ofText at h
    split at h
    · rename_i hread
      cases h
      exact hread
    · cases h
    · cases h
  obtain ⟨t, htree, hread⟩ := Schema.Format.readText_eq_ok_iff.mp hread
  exact ⟨t, htree, says_of_read hread⟩

end Sections

end SchemaRouting.Config
