import DocQuery.Options.Basic

/-!
# Options of documents

How a document is read or written: which revisions, and what comes with them. Most of these
options are flags, of which a value that is not a boolean is ignored.
-/

namespace DocQuery.Options

/-- The revision asked for, empty if there is none. -/
def rev (o : Options) : String := ((o.get? "rev").bind Param.string?).getD ""

/-- Whether a write makes a new revision. -/
def newEdits (o : Options) : Bool := o.flag "new_edits" true

/-- Whether later revisions are read too. -/
def latest (o : Options) : Bool := o.flag "latest" false

/-- Whether the list of revisions is included. -/
def revs (o : Options) : Bool := o.flag "revs" false

/-- Whether everything known on the document is included. -/
def metadata (o : Options) : Bool := o.flag "meta" false

/-- Whether conflicts are included. -/
def conflicts (o : Options) : Except OptionError Bool :=
  if o.metadata then .ok true else o.boolean "conflicts" false

/-- Whether deleted conflicts are included. -/
def deletedConflicts (o : Options) : Bool := o.metadata || o.flag "deleted_conflicts" false

/-- Whether the state of revisions is included. -/
def revsInfo (o : Options) : Bool := o.metadata || o.flag "revs_info" false

/-- Whether the local sequence number is included. -/
def localSeq (o : Options) : Bool := o.flag "local_seq" false

/-- The revisions whose attachments are known already. -/
def attsSince (o : Options) : Except OptionError (List String) := o.stringList "atts_since"

/-- Whether documents are included. -/
def includeDocs (o : Options) : Except OptionError Bool := o.boolean "include_docs" false

/-- Whether attachments are included. -/
def attachments (o : Options) : Except OptionError Bool := o.boolean "attachments" false

/-- Whether the sequence number of the index is included. -/
def updateSeq (o : Options) : Except OptionError Bool := o.boolean "update_seq" false

/-- Whether the encodings of attachments are included. -/
def attEncodingInfo (o : Options) : Except OptionError Bool := o.boolean "att_encoding_info" false

end DocQuery.Options
