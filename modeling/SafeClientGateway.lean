import SafeClientGateway.Js.Basic
import SafeClientGateway.Js.Number
import SafeClientGateway.Cache.Basic
import SafeClientGateway.Cache.Codec
import SafeClientGateway.HumanDescription.Regex
import SafeClientGateway.HumanDescription.Api
import SafeClientGateway.HumanDescription.Templates
import SafeClientGateway.Auth.Repository
import SafeClientGateway.Auth.Interleaving
import SafeClientGateway.Email.Repository
import SafeClientGateway.Users.Repository
import SafeClientGateway.Portfolio.Mapper
import SafeClientGateway.Prices.Api
import SafeClientGateway.TargetedMessaging.Datasource
import SafeClientGateway.TargetedMessaging.Interleaving
