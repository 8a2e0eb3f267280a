import BriefSearch.Main
import BriefSearch.Proofs.Client.Runs
import BriefSearch.Proofs.Command.Search
import BriefSearch.Proofs.Filter.Concatenation
import BriefSearch.Proofs.Filter.Faults
import BriefSearch.Proofs.Filter.Fields
import BriefSearch.Proofs.Filter.Writing
import BriefSearch.Proofs.Query.EscapedWords
import BriefSearch.Proofs.Query.Expressions
import BriefSearch.Proofs.Query.Histories
import BriefSearch.Proofs.Query.Meaning
import BriefSearch.Proofs.Query.Shapes
import BriefSearch.Proofs.Response.Decoding
import BriefSearch.Proofs.Response.FacetTerms
import BriefSearch.Proofs.Response.Facets
import BriefSearch.Proofs.Response.Records
import BriefSearch.Proofs.Response.Paging
import BriefSearch.Proofs.Response.Edits
import BriefSearch.Proofs.Response.FacetEntries
import BriefSearch.Proofs.Transport.FormEncoded
import BriefSearch.Proofs.Transport.Target
import BriefSearch.Proofs.Xml.Paths
