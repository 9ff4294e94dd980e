import ContractClient.Abi.Coercion
import ContractClient.Abi.Decoding
import ContractClient.Abi.Encoding
import ContractClient.Abi.Named
import ContractClient.Abi.Topic
import ContractClient.Abi.Type
import ContractClient.Abi.TypeText
import ContractClient.Abi.Value
import ContractClient.Address
import ContractClient.Address.Validation
import ContractClient.Block
import ContractClient.Bytecode
import ContractClient.Bytes
import ContractClient.Config.Basic
import ContractClient.Config.File
import ContractClient.Config.Record
import ContractClient.Contract.Deployment
import ContractClient.Contract.Event
import ContractClient.Contract.Function
import ContractClient.Contract.Handle
import ContractClient.Contract.Result
import ContractClient.Decimal.Shortest
import ContractClient.Dialogue
import ContractClient.Error
import ContractClient.Explanation
import ContractClient.Filter.Building
import ContractClient.Filter.Live
import ContractClient.Filter.Options
import ContractClient.Http.Exchange
import ContractClient.Http.Host
import ContractClient.Http.Url
import ContractClient.Interface.Arguments
import ContractClient.Interface.Artifact
import ContractClient.Interface.Entry
import ContractClient.Interface.Explorer
import ContractClient.Interface.Identifier
import ContractClient.Interface.Parameter
import ContractClient.Interface.Reader
import ContractClient.Interface.Resolution
import ContractClient.Interface.Store
import ContractClient.Interface.Writer
import ContractClient.Json.Basic
import ContractClient.Json.Number
import ContractClient.Json.Reader
import ContractClient.Json.Record
import ContractClient.Json.Writer
import ContractClient.Keccak
import ContractClient.Log.Decoding
import ContractClient.Log.Entry
import ContractClient.Node.Exchange
import ContractClient.Node.Method
import ContractClient.Node.Reply
import ContractClient.Numeral
import ContractClient.Offchain.Following
import ContractClient.Offchain.Gateway
import ContractClient.Offchain.Lookup
import ContractClient.Path
import ContractClient.Quantity
import ContractClient.Service.CommandLine
import ContractClient.Service.Networks
import ContractClient.Service.Offline
import ContractClient.Service.Protocol
import ContractClient.Service.Request
import ContractClient.Service.Server
import ContractClient.Text.Blank
import ContractClient.Text.CaseClasses
import ContractClient.Text.Lowercase
import ContractClient.Text.Quoted
import ContractClient.Text.Search
import ContractClient.Text.Utf8
import ContractClient.Toml.Basic
import ContractClient.Toml.Reader
import ContractClient.Toml.Scalar
import ContractClient.Toml.Table
import ContractClient.Toml.Writer
import ContractClient.Transaction.Defaults
import ContractClient.Transaction.Request
import ContractClient.Width
import ContractClient.Main
import ContractClient.Proofs.HexText
import ContractClient.Proofs.Numerals
import ContractClient.Proofs.Traversal
import ContractClient.Proofs.Members
import ContractClient.Proofs.Types
import ContractClient.Proofs.Typing
import ContractClient.Proofs.Coercion
import ContractClient.Proofs.JsonRoundTrip
import ContractClient.Proofs.ArgumentEncoding
import ContractClient.Proofs.KeywordMerging
import ContractClient.Proofs.StructArguments
import ContractClient.Proofs.Overloads
import ContractClient.Proofs.FurtherOverloads
import ContractClient.Proofs.FilterBuilding
import ContractClient.Proofs.TopicFilters
import ContractClient.Proofs.LogDecoding
import ContractClient.Proofs.ArgumentNames
import ContractClient.Proofs.LogOccurrences
import ContractClient.Proofs.NamedResults
import ContractClient.Proofs.LogRoundTrip
import ContractClient.Proofs.Layout
import ContractClient.Proofs.Utf8
import ContractClient.Proofs.TopicLeaves
import ContractClient.Proofs.CallData
import ContractClient.Proofs.Conversations
import ContractClient.Proofs.OffchainFollowing
import ContractClient.Proofs.Calls
import ContractClient.Proofs.RevertData
import ContractClient.Proofs.Refusals
import ContractClient.Proofs.Requests
import ContractClient.Proofs.TransactionDefaults
import ContractClient.Proofs.TransactionFilling
import ContractClient.Proofs.Dispatching
import ContractClient.Proofs.Deployments
import ContractClient.Proofs.FailingFast
import ContractClient.Proofs.Agreement
import ContractClient.Proofs.Binding
import ContractClient.Proofs.LogQueries
import ContractClient.Proofs.ToolCalls
import ContractClient.Proofs.Sessions
import ContractClient.Proofs.WriteGate
import ContractClient.Proofs.FilterLifetimes
import ContractClient.Proofs.AddressTexts
import ContractClient.Proofs.DefaultNetwork
import ContractClient.Proofs.LegalFilters
import ContractClient.Proofs.FailedCalls
import ContractClient.Proofs.Paths
import ContractClient.Proofs.InterfaceCaching
import ContractClient.Proofs.GatewayOrder
import ContractClient.Proofs.FunctionNaming
import ContractClient.Proofs.ConcreteIdentifiers
import ContractClient.Proofs.JsonNumbers
import ContractClient.Proofs.JsonTexts
import ContractClient.Proofs.LookupReports
import ContractClient.Proofs.HexMarkers
import ContractClient.Proofs.DigitTexts
import ContractClient.Proofs.NumeralTexts
import ContractClient.Proofs.BlockTexts
import ContractClient.Proofs.ArgumentFilters
import ContractClient.Proofs.KeySubstitution
import ContractClient.Proofs.ShownIdentifiers
